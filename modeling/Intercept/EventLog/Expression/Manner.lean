import Intercept.Text.Characters

/-!
# How an expression is read

Flags in an expression say how what follows is read: whether case counts, whether its characters are
those of all scripts or bytes, and whether blanks and comments between its pieces are passed over.
-/

namespace Intercept.EventLog.Expression

structure Manner where
  foldsCase : Bool := false
  allScripts : Bool := true
  isSpaced : Bool := false
  deriving DecidableEq, Repr

/-- The text without the blanks and comments before it. A comment ends with its line. -/
def dropSpace (inComment : Bool) : List Char → List Char
  | [] => []
  | c :: rest =>
    if inComment then dropSpace (c ≠ '\n') rest
    else if Characters.isBlank c then dropSpace false rest
    else if c = '#' then dropSpace true rest
    else c :: rest

namespace Manner

/-- What is to be read next. -/
def skip (m : Manner) (text : List Char) : List Char :=
  if m.isSpaced then dropSpace false text else text

/-- What is to be read next, unless that is nothing. -/
def next? (m : Manner) (text : List Char) : Option (List Char) :=
  match m.skip text with
  | [] => none
  | rest => some rest

/-- The manner with a flag turned on or off. -/
def turned (m : Manner) (isOn : Bool) : Char → Manner
  | 'i' => { m with foldsCase := isOn }
  | 'u' => { m with allScripts := isOn }
  | 'x' => { m with isSpaced := isOn }
  | _ => m

/-- Whether a character can be looked for by itself. Case can be folded for bytes only, and a byte
given by its number must be a character. -/
def admits (m : Manner) (c : Char) (isByte : Bool) : Bool :=
  if m.allScripts then !m.foldsCase else !isByte || c.toNat < 128

/-- Whether a character can be in a set. Sets of bytes hold characters of ASCII only. -/
def admitsMember (m : Manner) (c : Char) : Bool := m.allScripts || c.toNat < 128

/-- Whether there is a set of all the characters of a kind, or of all others. There are such sets of
bytes, and they must not hold a byte that is no character. -/
def admitsKind (m : Manner) (isNegated : Bool) : Bool := !m.allScripts && !isNegated

end Manner

end Intercept.EventLog.Expression
