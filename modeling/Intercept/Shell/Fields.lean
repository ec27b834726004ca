import Intercept.Shell.Pattern

/-!
# From an expanded word to fields

Expanding a word gives a row of atoms. Bytes that come from an expansion outside quotes are where
the row may be split into fields; empty quotes hold a field open, and a gap separates the elements
of a list of values.
-/

namespace Intercept.Shell

inductive Atom where
  | mark (m : Mark) (splits : Bool)
  /-- Holds a field open. -/
  | anchor
  /-- Separates two values of a list. -/
  | gap
  /-- Where bytes begin that can be split. A separator behind it stands on its own. -/
  | border
  deriving DecidableEq, Repr

namespace Atom

/-- The atoms of bytes that cannot be split. -/
def whole (quoted : Bool) (bytes : Bytes) : List Atom := bytes.map fun b => .mark ⟨b, quoted⟩ false

/-- The atoms of bytes that come from an expansion; those outside quotes can be split. -/
def expanded (quoted : Bool) (bytes : Bytes) : List Atom :=
  if quoted then whole true bytes else .border :: bytes.map fun b => .mark ⟨b, false⟩ true

/-- The atoms of the values of a list. -/
def ofValues (quoted : Bool) (values : List Bytes) : List Atom :=
  let own (value : Bytes) : List Atom :=
    if quoted then .anchor :: whole true value else value.map fun b => .mark ⟨b, false⟩ true
  let rows := (values.map own).intersperse [.gap]
  if quoted then rows.flatten else .border :: rows.flatten

end Atom

/-- The bytes that separate fields: blanks of any number separate as one, every other byte
separates on its own. -/
structure Separators where
  blanks : Bytes
  others : Bytes
  deriving DecidableEq, Repr

def Separators.ofBytes (bytes : Bytes) : Separators :=
  let isSpace (b : UInt8) : Bool := b = Bytes.space || b = Bytes.tab || b = Bytes.newline
  { blanks := bytes.filter isSpace, others := bytes.filter (!isSpace ·) }

/-- Splits atoms into fields. `current` is the field that has been begun, last mark first, and
`behindBlank` holds directly behind a blank that ended a field. -/
def splitAtoms (separators : Separators) (current : Option (List Mark)) (behindBlank : Bool) :
    List Atom → List (List Mark)
  | [] => current.toList.map List.reverse
  | .anchor :: rest => splitAtoms separators (some (current.getD [])) false rest
  | .border :: rest => splitAtoms separators current false rest
  | .gap :: rest =>
    current.toList.map List.reverse ++
      splitAtoms separators none (behindBlank || current.isSome) rest
  | .mark m splits :: rest =>
    if splits && separators.blanks.contains m.byte then
      current.toList.map List.reverse ++
        splitAtoms separators none (behindBlank || current.isSome) rest
    else if splits && separators.others.contains m.byte then
      let ended := match current with
        | some marks => [marks.reverse]
        | none => if behindBlank then [] else [[]]
      ended ++ splitAtoms separators none false rest
    else splitAtoms separators (some (m :: current.getD [])) false rest

/-- The fields of a row of atoms. -/
def fieldsOf (separators : Separators) (atoms : List Atom) : List (List Mark) :=
  splitAtoms separators none false atoms

/-- The marks of a row of atoms that is one field. -/
def marksOf (atoms : List Atom) : List Mark :=
  atoms.filterMap fun
    | .mark m _ => some m
    | .gap => some ⟨Bytes.space, true⟩
    | _ => none

/-- The bytes of a row of atoms that is one field. -/
def textOf (atoms : List Atom) : Bytes := Mark.bytes (marksOf atoms)

/-- The order of paths: that of their bytes. -/
def bytesLe (a b : Bytes) : Bool := a ≤ b

end Intercept.Shell
