import Intercept.Bytes

/-!
# Patterns

A pattern matches whole byte strings. Bytes that were quoted stand for themselves; of the others a
star stands for any bytes, a question mark for one byte, and brackets for one byte out of a set. In
the order of the bytes in a set those above 127 come first.
-/

namespace Intercept.Shell

/-- A byte of an expanded word, and whether it was quoted. -/
structure Mark where
  byte : UInt8
  quoted : Bool
  deriving DecidableEq, Repr

namespace Mark

def bytes (marks : List Mark) : Bytes := marks.map byte

/-- Whether the mark is the given byte, outside quotes. -/
def isBare (m : Mark) (b : UInt8) : Bool := !m.quoted && m.byte = b

end Mark

inductive PatternItem where
  | exactly (b : UInt8)
  | one
  | many
  | among (negated : Bool) (ranges : List (UInt8 × UInt8))
  deriving DecidableEq, Repr

abbrev Pattern := List PatternItem

/-- The sets of bytes that have names. -/
def namedSets : List (String × List (UInt8 × UInt8)) :=
  [("alnum", [(0x30, 0x39), (0x41, 0x5A), (0x61, 0x7A)]), ("alpha", [(0x41, 0x5A), (0x61, 0x7A)]),
    ("blank", [(0x09, 0x09), (0x20, 0x20)]), ("cntrl", [(0x00, 0x1F), (0x7F, 0x7F)]),
    ("digit", [(0x30, 0x39)]), ("graph", [(0x21, 0x7E)]), ("lower", [(0x61, 0x7A)]),
    ("print", [(0x20, 0x7E)]),
    ("punct", [(0x21, 0x2F), (0x3A, 0x40), (0x5B, 0x60), (0x7B, 0x7E)]),
    ("space", [(0x09, 0x0D), (0x20, 0x20)]), ("upper", [(0x41, 0x5A)]),
    ("xdigit", [(0x30, 0x39), (0x41, 0x46), (0x61, 0x66)])]

/-- Marks in which a backslash that is not quoted has quoted what follows it. -/
def resolveBackslashes : List Mark → List Mark
  | [] => []
  | [m] => [if m.isBare 0x5C then { m with quoted := true } else m]
  | m :: n :: rest =>
    if m.isBare 0x5C then { n with quoted := true } :: resolveBackslashes rest
    else m :: resolveBackslashes (n :: rest)

/-- The named set behind an opening bracket in a set, and what follows it. -/
def readNamedSet (marks : List Mark) : Option (List (UInt8 × UInt8) × List Mark) :=
  match marks with
  | colon :: rest =>
    if colon.isBare 0x3A then
      let name := rest.takeWhile fun m => !m.isBare 0x3A
      match rest.drop name.length with
      | _ :: close :: after =>
        if close.isBare 0x5D then
          (namedSets.find? fun (known, _) => Bytes.ofString known = Mark.bytes name).map
            fun (_, set) => (set, after)
        else none
      | _ => none
    else none
  | [] => none

/-- The set between brackets, up to the closing one, and what follows; `first` holds where a
closing bracket is still a member. The first argument bounds the number of members. -/
def readSet : Nat → (first : Bool) → List Mark → Option (List (UInt8 × UInt8) × List Mark)
  | 0, _, _ => none
  | _, _, [] => none
  | fuel + 1, first, m :: rest =>
    if m.isBare 0x5D && !first then some ([], rest)
    else
      let behind (ranges : List (UInt8 × UInt8)) (after : List Mark) :=
        (readSet fuel false after).map fun (set, left) => (ranges ++ set, left)
      match if m.isBare 0x5B then readNamedSet rest else none with
      | some (set, after) => behind set after
      | none =>
        match rest with
        | dash :: last :: after =>
          if dash.isBare 0x2D && !last.isBare 0x5D then behind [(m.byte, last.byte)] after
          else behind [(m.byte, m.byte)] rest
        | _ => behind [(m.byte, m.byte)] rest

/-- The pattern of marks; `fuel` bounds the number of items. -/
def compile : Nat → List Mark → List PatternItem
  | 0, _ => []
  | _, [] => []
  | fuel + 1, m :: rest =>
    if m.isBare 0x2A then .many :: compile fuel rest
    else if m.isBare 0x3F then .one :: compile fuel rest
    else if m.isBare 0x5B then
      let negated := rest.head?.any (·.isBare 0x21)
      match readSet (rest.length + 1) true (if negated then rest.drop 1 else rest) with
      | some (set, after) => .among negated set :: compile fuel after
      | none => .exactly m.byte :: compile fuel rest
    else .exactly m.byte :: compile fuel rest

namespace Pattern

def ofMarks (marks : List Mark) : Pattern := compile marks.length (resolveBackslashes marks)

/-- The bytes of a pattern that matches nothing else. -/
def bytes? (pattern : Pattern) : Option Bytes :=
  pattern.mapM fun
    | .exactly b => some b
    | _ => none

end Pattern

def PatternItem.accepts (item : PatternItem) (b : UInt8) : Bool :=
  match item with
  | exactly c => b = c
  | one => true
  | many => true
  | among negated ranges =>
    (ranges.any fun (low, high) => low.toInt8 ≤ b.toInt8 && b.toInt8 ≤ high.toInt8) != negated

/-- Whether the pattern matches all of the bytes. -/
def Pattern.matches : Pattern → Bytes → Bool
  | [], bytes => bytes.isEmpty
  | .many :: items, [] => Pattern.matches items []
  | .many :: items, b :: bytes =>
    Pattern.matches items (b :: bytes) || Pattern.matches (.many :: items) bytes
  | _ :: _, [] => false
  | item :: items, b :: bytes => item.accepts b && Pattern.matches items bytes
termination_by items bytes => items.length + bytes.length

/-- The value without the stretch at one end that the pattern matches, if there is one. -/
def Pattern.cut (pattern : Pattern) (fromEnd longest : Bool) (value : Bytes) : Bytes :=
  let lengths := List.range (value.length + 1)
  let ordered := if longest then lengths.reverse else lengths
  let matched := ordered.find? fun n =>
    pattern.matches (if fromEnd then value.drop (value.length - n) else value.take n)
  match matched with
  | none => value
  | some n => if fromEnd then value.take (value.length - n) else value.drop n

end Intercept.Shell
