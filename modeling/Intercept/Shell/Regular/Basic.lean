import Intercept.Shell.Names

/-!
# Regular expressions

What tools look for in lines. An expression matches stretches of a text. Groups are numbered, so
that what a group has matched can be looked for again, and be used by what replaces the whole
stretch.
-/

namespace Intercept.Shell

/-- Bytes that are in one of some ranges, or all others. -/
structure ByteSet where
  ranges : List (UInt8 × UInt8)
  inverted : Bool := false
  deriving DecidableEq, Repr

namespace ByteSet

def contains (set : ByteSet) (b : UInt8) : Bool :=
  (set.ranges.any fun (low, high) => low ≤ b && b ≤ high) != set.inverted

/-- The set of one byte. -/
def exactly (b : UInt8) : ByteSet := { ranges := [(b, b)] }

/-- The set of all bytes. -/
def all : ByteSet := { ranges := [], inverted := true }

end ByteSet

/-- A place in a text, without a byte of it. -/
inductive Edge where
  | lineStart
  | lineEnd
  | textStart
  | textEnd
  | wordStart
  | wordEnd
  /-- The start or the end of a word; anything else if it is not `isOne`. -/
  | word (isOne : Bool)
  deriving DecidableEq, Repr

inductive Regular where
  | nothing
  | one (set : ByteSet)
  | edge (e : Edge)
  /-- What a group has matched, once more. -/
  | again (number : Nat)
  | group (number : Nat) (inner : Regular)
  | behind (first second : Regular)
  | either (first second : Regular)
  /-- So many times at least, and at most if there is a limit. -/
  | repeated (least : Nat) (most : Option Nat) (inner : Regular)
  deriving DecidableEq, Repr

/-- Whether the expression has a group. -/
def Regular.hasGroup : Regular → Bool
  | group .. => true
  | behind first second | either first second => first.hasGroup || second.hasGroup
  | repeated _ _ inner => inner.hasGroup
  | _ => false

/-- Which signs of an expression have a meaning of their own. -/
structure RegularDialect where
  /-- Whether they have it without a backslash. -/
  extended : Bool := false
  /-- Whether a repetition must have something before it; else it is passed over. -/
  strict : Bool := false
  deriving DecidableEq, Repr

/-- Why a text is no expression. -/
inductive RegularFlaw where
  | emptyBracket
  | unknownClass
  | trailingBackslash
  | unknownGroup
  | openBracket
  | openGroup
  | closedGroup
  | openInterval
  | badInterval
  | badRange
  | nothingRepeated
  | tooLarge
  deriving DecidableEq, Repr

def RegularFlaw.message : RegularFlaw → String
  | emptyBracket => "Invalid regular expression"
  | unknownClass => "Invalid character class name"
  | trailingBackslash => "Trailing backslash"
  | unknownGroup => "Invalid back reference"
  | openBracket => "Unmatched [, [^, [:, [., or [="
  | openGroup => "Unmatched ( or \\("
  | closedGroup => "Unmatched ) or \\)"
  | openInterval => "Unmatched \\\x7b"
  | badInterval => "Invalid content of \\\x7b\\\x7d"
  | badRange => "Invalid range end"
  | nothingRepeated => "Invalid preceding regular expression"
  | tooLarge => "Regular expression too big"

end Intercept.Shell
