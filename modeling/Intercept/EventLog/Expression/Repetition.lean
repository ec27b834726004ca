import Intercept.EventLog.Expression.Manner

/-!
# How often a piece is to be repeated

A number in braces, or two with a comma between them, of which the second may be left out.
-/

namespace Intercept.EventLog.Expression

/-- The least and the greatest number of times. -/
structure Times where
  least : Nat
  most : Option Nat
  deriving DecidableEq, Repr

/-- The number that a text begins with, and what follows it and the blanks around it. -/
def decimal (m : Manner) (digits : List Char) : Nat → List Char → List Char × List Char
  | 0, text => (digits.reverse, text)
  | _ + 1, [] => (digits.reverse, [])
  | fuel + 1, c :: rest =>
    if c.isDigit then decimal m (c :: digits) fuel (m.skip rest)
    else (digits.reverse, (c :: rest).dropWhile Characters.isBlank)

/-- A number of 32 bits, and what follows it. -/
def times? (m : Manner) (text : List Char) : Option (Nat × List Char) :=
  let text := text.dropWhile Characters.isBlank
  let (digits, rest) := decimal m [] (text.length + 1) text
  let value := digits.foldl (fun n d => 10 * n + (d.toNat - 48)) 0
  if digits.isEmpty || value ≥ 1 <<< 32 then none else some (value, m.skip rest)

/-- What stands behind an opening brace, and what follows the closing one. -/
def repetition? (m : Manner) (text : List Char) : Option (Times × List Char) := do
  let (least, rest) ← times? m (← m.next? text)
  match rest with
  | '\x7d' :: after => some (⟨least, some least⟩, after)
  | ',' :: rest =>
    match ← m.next? rest with
    | '\x7d' :: after => some (⟨least, none⟩, after)
    | rest =>
      let (most, rest) ← times? m rest
      match rest with
      | '\x7d' :: after => if least ≤ most then some (⟨least, some most⟩, after) else none
      | _ => none
  | _ => none

end Intercept.EventLog.Expression
