import Intercept.Bytes

/-!
# Reading bytes as text

A byte string is cut into pieces: the encodings of single characters, and the bytes that encode
none. The cut follows the Unicode practice of maximal subparts: a sequence that breaks off is one
piece up to the byte that it cannot go on with, and that byte begins a piece of its own.

`lossy` writes U+FFFD for each piece that is no character and keeps the others; `text` is the same
as a text, and `text?` is the text of bytes that hold no such piece.
-/

namespace Intercept.Utf8

/-- A maximal run of bytes that is read as one. -/
inductive Piece where
  | scalar (c : Char) (bytes : Bytes)
  | invalid (bytes : Bytes)
  deriving DecidableEq, Repr

/-- The bytes of U+FFFD. -/
def replacement : Bytes := [0xEF, 0xBF, 0xBD]

namespace Piece

def bytes : Piece → Bytes
  | scalar _ bytes => bytes
  | invalid bytes => bytes

/-- The character that a reader sees. -/
def shown : Piece → Char
  | scalar c _ => c
  | invalid _ => '\uFFFD'

/-- The bytes of the character that a reader sees. -/
def shownBytes : Piece → Bytes
  | scalar _ bytes => bytes
  | invalid _ => replacement

def isScalar : Piece → Bool
  | scalar .. => true
  | invalid _ => false

end Piece

/-- A sequence that has begun: its bytes so far, the bits that they carry, the number of bytes
still owed (the next one not counted), and the range that the next byte has to lie in. -/
structure Begun where
  seen : Bytes
  bits : Nat
  owed : Nat
  least : UInt8 := 0x80
  most : UInt8 := 0xBF
  deriving DecidableEq, Repr

/-- What a byte that follows no unfinished sequence does. -/
def lead (b : UInt8) : List Piece × Option Begun :=
  if b ≤ 0x7F then ([.scalar (Char.ofNat b.toNat) [b]], none)
  else if 0xC2 ≤ b ∧ b ≤ 0xDF then ([], some { seen := [b], bits := b.toNat - 0xC0, owed := 0 })
  else if b = 0xE0 then ([], some { seen := [b], bits := 0, owed := 1, least := 0xA0 })
  else if b = 0xED then ([], some { seen := [b], bits := 0xD, owed := 1, most := 0x9F })
  else if 0xE1 ≤ b ∧ b ≤ 0xEF then ([], some { seen := [b], bits := b.toNat - 0xE0, owed := 1 })
  else if b = 0xF0 then ([], some { seen := [b], bits := 0, owed := 2, least := 0x90 })
  else if 0xF1 ≤ b ∧ b ≤ 0xF3 then ([], some { seen := [b], bits := b.toNat - 0xF0, owed := 2 })
  else if b = 0xF4 then ([], some { seen := [b], bits := 4, owed := 2, most := 0x8F })
  else ([.invalid [b]], none)

/-- One byte: the pieces that it finishes, and the sequence that is unfinished after it. -/
def step : Option Begun → UInt8 → List Piece × Option Begun
  | none, b => lead b
  | some begun, b =>
    if begun.least ≤ b ∧ b ≤ begun.most then
      let seen := begun.seen ++ [b]
      let bits := begun.bits * 64 + (b.toNat - 0x80)
      match begun.owed with
      | 0 => ([.scalar (Char.ofNat bits) seen], none)
      | owed + 1 => ([], some { seen, bits, owed })
    else
      let (pieces, next) := lead b
      (.invalid begun.seen :: pieces, next)

/-- The pieces of the bytes that follow an unfinished sequence, if there is one. -/
def scan : Option Begun → Bytes → List Piece
  | none, [] => []
  | some begun, [] => [.invalid begun.seen]
  | state, b :: rest =>
    let (pieces, next) := step state b
    pieces ++ scan next rest

/-- The pieces of a byte string, in order. -/
def pieces (bytes : Bytes) : List Piece := scan none bytes

/-- The bytes with U+FFFD in place of each piece that is no character. -/
def lossy (bytes : Bytes) : Bytes := (pieces bytes).flatMap Piece.shownBytes

/-- The text that a reader of the bytes sees. -/
def text (bytes : Bytes) : String := String.ofList ((pieces bytes).map Piece.shown)

/-- The text of the bytes, if they are one. -/
def text? (bytes : Bytes) : Option String :=
  if (pieces bytes).all Piece.isScalar then some (text bytes) else none

/-- No byte is lost: the pieces make up the unfinished sequence and what follows it. -/
theorem flatMap_bytes_scan (state : Option Begun) (bytes : Bytes) :
    (scan state bytes).flatMap Piece.bytes = (state.elim [] Begun.seen) ++ bytes := by
  have bytes_lead (b : UInt8) :
      (lead b).1.flatMap Piece.bytes ++ ((lead b).2.elim [] Begun.seen) = [b] := by
    unfold lead
    repeat' split
    all_goals simp [Piece.bytes]
  induction bytes generalizing state with
  | nil => cases state <;> simp [scan, Piece.bytes]
  | cons b rest ih =>
      cases state with
      | none =>
          simp only [scan, step, List.flatMap_append, ih, Option.elim_none, List.nil_append]
          rw [← List.append_assoc, bytes_lead]
          rfl
      | some begun =>
          simp only [scan, step]
          split
          · split <;> simp [ih, Piece.bytes]
          · simp only [List.cons_append, List.flatMap_cons, List.flatMap_append, ih,
              Option.elim_some, Piece.bytes]
            rw [← List.append_assoc ((lead b).1.flatMap Piece.bytes), bytes_lead]
            rfl

/-- The pieces of a byte string make it up. -/
theorem flatMap_bytes_pieces (bytes : Bytes) : (pieces bytes).flatMap Piece.bytes = bytes := by
  simp [pieces, flatMap_bytes_scan]

end Intercept.Utf8
