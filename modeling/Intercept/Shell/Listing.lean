import Intercept.Bytes

/-!
# Listings

What can be added to a text while it is passed on: numbers in front of its lines, marks where they
end, and visible forms of bytes that have none.
-/

namespace Intercept.Shell

structure Listing where
  numbered : Bool := false
  /-- Numbers are given to lines only that hold something. -/
  countsFilled : Bool := false
  /-- Of empty lines in a row the first alone is passed on. -/
  squeezed : Bool := false
  endsShown : Bool := false
  tabsShown : Bool := false
  bytesShown : Bool := false
  deriving DecidableEq, Repr

namespace Listing

/-- The listing with what a letter asks for. -/
def add? (listing : Listing) (letter : UInt8) : Option Listing :=
  match Char.ofNat letter.toNat with
  | 'n' => some { listing with numbered := true }
  | 'b' => some { listing with numbered := true, countsFilled := true }
  | 's' => some { listing with squeezed := true }
  | 'E' => some { listing with endsShown := true }
  | 'T' => some { listing with tabsShown := true }
  | 'v' => some { listing with bytesShown := true }
  | 'e' => some { listing with endsShown := true, bytesShown := true }
  | 't' => some { listing with tabsShown := true, bytesShown := true }
  | 'A' => some { listing with endsShown := true, tabsShown := true, bytesShown := true }
  | 'u' => some listing
  | _ => none

/-- The listing that letters ask for. -/
def ofLetters? (letters : Bytes) : Option Listing := letters.foldlM add? {}

/-- The visible form of a byte. -/
def visible (b : UInt8) : Bytes :=
  let low := b &&& 0x7F
  let shown := if low < 0x20 then [0x5E, low + 0x40] else if low = 0x7F then [0x5E, 0x3F] else [low]
  if b < 0x80 then shown else Bytes.ofString "M-" ++ shown

/-- A line without its end. -/
def line (listing : Listing) (bytes : Bytes) : Bytes :=
  bytes.flatMap fun b =>
    if b = Bytes.tab then (if listing.tabsShown then visible b else [b])
    else if listing.bytesShown then visible b
    else [b]

/-- The number in front of a line. -/
def label (n : Nat) : Bytes :=
  let digits := Bytes.ofString (toString n)
  List.replicate (6 - digits.length) Bytes.space ++ digits ++ [Bytes.tab]

/-- Lines, the last of which is what stands behind the last end of a line. `n` lines have been
numbered, and `afterEmpty` tells that the line before is empty. -/
def lines (listing : Listing) (n : Nat) (afterEmpty : Bool) : List Bytes → Bytes
  | [] => []
  | bytes :: rest =>
    if rest = [] ∧ bytes = [] then []
    else if listing.squeezed ∧ afterEmpty ∧ bytes = [] then listing.lines n true rest
    else
      let counted := listing.numbered && !(listing.countsFilled && bytes.isEmpty)
      let ending : Bytes :=
        if rest = [] then []
        else if listing.endsShown then [0x24, Bytes.newline]
        else [Bytes.newline]
      (if counted then label (n + 1) else []) ++ listing.line bytes ++ ending ++
        listing.lines (if counted then n + 1 else n) bytes.isEmpty rest

/-- The text with what the listing adds to it. -/
def apply (listing : Listing) (text : Bytes) : Bytes :=
  listing.lines 0 false (Bytes.splitAt Bytes.newline text)

end Listing

end Intercept.Shell
