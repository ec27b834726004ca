import Intercept.Proofs.Text
import Mathlib.Data.List.Basic

/-!
# The bytes of what is shown

The bits that the bytes of a sequence carry are those of one character, and the sequence is the
encoding of this character: of all encodings only the shortest is read, and no surrogate. So the
bytes that are shown in place of bytes are the encoding of the text that is read out of them.

Results:
1. `encode_two`, `encode_three`, `encode_four`: a sequence is the encoding of the character of its
   bits.
2. `spells_lead`, `spells_step`: an unfinished sequence is the beginning of one.
3. `ofString_text`: what is shown is the encoding of the text.
-/

namespace Intercept.Utf8

open String (utf8EncodeChar)

/-! ## Definitions -/

/-- A byte that goes on with a sequence. -/
def IsTail (b : UInt8) : Prop := 0x80 ≤ b ∧ b ≤ 0xBF

/-- The bits of a sequence, with those of the bytes that go on with it. -/
def withTails (bits : Nat) (tails : Bytes) : Nat :=
  tails.foldl (fun before b => before * 64 + (b.toNat - 0x80)) bits

/-- A piece that is shown as the encoding of the character that it is shown as. -/
def Piece.Encoded (piece : Piece) : Prop := utf8EncodeChar piece.shown = piece.shownBytes

/-- An unfinished sequence that is an encoding as soon as it is finished. -/
def Begun.Spells (begun : Begun) : Prop :=
  ∀ b tails, begun.least ≤ b → b ≤ begun.most → tails.length = begun.owed →
    (∀ tail ∈ tails, IsTail tail) →
    utf8EncodeChar (Char.ofNat (withTails begun.bits (b :: tails))) = begun.seen ++ b :: tails

/-! ## Sequences -/

theorem val_ofNat {n : Nat} (valid : n.isValidChar) : (Char.ofNat n).val.toNat = n := by
  rw [Char.ofNat, dif_pos valid]
  rfl

theorem withTails_cons (bits : Nat) (b : UInt8) (tails : Bytes) :
    withTails bits (b :: tails) = withTails (bits * 64 + (b.toNat - 0x80)) tails := by
  rw [withTails, List.foldl_cons, withTails]

theorem ofNat_eq {n : Nat} {b : UInt8} (value : n = b.toNat) : UInt8.ofNat n = b := by
  rw [value, UInt8.ofNat_toNat]

theorem encode_one {b : UInt8} (ascii : IsAscii b) :
    utf8EncodeChar (Char.ofNat b.toNat) = [b] := by
  have low : b.toNat ≤ 127 := UInt8.le_iff_toNat_le.mp ascii
  have value : (Char.ofNat b.toNat).val.toNat = b.toNat := val_ofNat (by omega)
  unfold utf8EncodeChar
  simp only [value]
  rw [if_pos low, UInt8.ofNat_toNat]

theorem encode_two {a b : UInt8} (lead : 0xC2 ≤ a ∧ a ≤ 0xDF) (tail : IsTail b) :
    utf8EncodeChar (Char.ofNat (withTails (a.toNat - 0xC0) [b])) = [a, b] := by
  simp only [IsTail, UInt8.le_iff_toNat_le, UInt8.reduceToNat] at lead tail
  generalize number : withTails (a.toNat - 0xC0) [b] = n
  simp only [withTails, List.foldl_cons, List.foldl_nil] at number
  have value : (Char.ofNat n).val.toNat = n := val_ofNat (by omega)
  unfold utf8EncodeChar
  simp only [value]
  rw [if_neg (by omega), if_pos (by omega), ofNat_eq (b := a) (by omega),
    ofNat_eq (b := b) (by omega)]

/-- Three bytes, which are not a longer form of two, nor a surrogate. -/
theorem encode_three {a b c : UInt8} (lead : 0xE0 ≤ a ∧ a ≤ 0xEF) (first : IsTail b)
    (second : IsTail c) (shortest : a = 0xE0 → 0xA0 ≤ b) (valid : a = 0xED → b ≤ 0x9F) :
    utf8EncodeChar (Char.ofNat (withTails (a.toNat - 0xE0) [b, c])) = [a, b, c] := by
  simp only [IsTail, UInt8.le_iff_toNat_le, ← UInt8.toNat_inj, UInt8.reduceToNat] at *
  generalize number : withTails (a.toNat - 0xE0) [b, c] = n
  simp only [withTails, List.foldl_cons, List.foldl_nil] at number
  have value : (Char.ofNat n).val.toNat = n := val_ofNat (by omega)
  unfold utf8EncodeChar
  simp only [value]
  rw [if_neg (by omega), if_neg (by omega), if_pos (by omega), ofNat_eq (b := a) (by omega),
    ofNat_eq (b := b) (by omega), ofNat_eq (b := c) (by omega)]

/-- Four bytes, which are not a longer form of three, nor beyond the last character. -/
theorem encode_four {a b c d : UInt8} (lead : 0xF0 ≤ a ∧ a ≤ 0xF4) (first : IsTail b)
    (second : IsTail c) (third : IsTail d) (shortest : a = 0xF0 → 0x90 ≤ b)
    (valid : a = 0xF4 → b ≤ 0x8F) :
    utf8EncodeChar (Char.ofNat (withTails (a.toNat - 0xF0) [b, c, d])) = [a, b, c, d] := by
  simp only [IsTail, UInt8.le_iff_toNat_le, ← UInt8.toNat_inj, UInt8.reduceToNat] at *
  generalize number : withTails (a.toNat - 0xF0) [b, c, d] = n
  simp only [withTails, List.foldl_cons, List.foldl_nil] at number
  have value : (Char.ofNat n).val.toNat = n := val_ofNat (by omega)
  unfold utf8EncodeChar
  simp only [value]
  rw [if_neg (by omega), if_neg (by omega), if_neg (by omega), ofNat_eq (b := a) (by omega),
    ofNat_eq (b := b) (by omega), ofNat_eq (b := c) (by omega), ofNat_eq (b := d) (by omega)]

/-! ## Sequences that have begun -/

theorem spells_two {b : UInt8} (lead : 0xC2 ≤ b ∧ b ≤ 0xDF) :
    Begun.Spells { seen := [b], bits := b.toNat - 0xC0, owed := 0 } := by
  intro first tails least most length _
  obtain rfl : tails = [] := List.length_eq_zero_iff.mp length
  exact encode_two lead ⟨least, most⟩

theorem spells_three {b least most : UInt8} (lead : 0xE0 ≤ b ∧ b ≤ 0xEF) (low : 0x80 ≤ least)
    (high : most ≤ 0xBF) (shortest : b = 0xE0 → 0xA0 ≤ least) (valid : b = 0xED → most ≤ 0x9F) :
    Begun.Spells { seen := [b], bits := b.toNat - 0xE0, owed := 1, least, most } := by
  intro first tails above below length tail
  obtain ⟨second, rfl⟩ : ∃ second, tails = [second] := List.length_eq_one_iff.mp length
  exact encode_three lead ⟨UInt8.le_trans low above, UInt8.le_trans below high⟩
    (tail second List.mem_cons_self) (fun equal => UInt8.le_trans (shortest equal) above)
    (fun equal => UInt8.le_trans below (valid equal))

theorem spells_four {b least most : UInt8} (lead : 0xF0 ≤ b ∧ b ≤ 0xF4) (low : 0x80 ≤ least)
    (high : most ≤ 0xBF) (shortest : b = 0xF0 → 0x90 ≤ least) (valid : b = 0xF4 → most ≤ 0x8F) :
    Begun.Spells { seen := [b], bits := b.toNat - 0xF0, owed := 2, least, most } := by
  intro first tails above below length tail
  obtain ⟨second, third, rfl⟩ : ∃ second third, tails = [second, third] :=
    List.length_eq_two.mp length
  exact encode_four lead ⟨UInt8.le_trans low above, UInt8.le_trans below high⟩
    (tail second List.mem_cons_self) (tail third (List.mem_cons_of_mem _ List.mem_cons_self))
    (fun equal => UInt8.le_trans (shortest equal) above)
    (fun equal => UInt8.le_trans below (valid equal))

/-- Every sequence that a byte begins is one of these three kinds. -/
theorem spells_lead {b : UInt8} : ∀ begun ∈ (lead b).2, begun.Spells := by
  intro begun unfinished
  unfold lead at unfinished
  split at unfinished
  · exact absurd unfinished (Option.not_mem_none begun)
  split at unfinished
  · next two =>
    obtain rfl := Option.some.inj unfinished
    exact spells_two two
  split at unfinished
  · next least =>
    subst least
    obtain rfl := Option.some.inj unfinished
    exact spells_three (b := 0xE0) (by decide) (by decide) (by decide) (by decide) (by decide)
  split at unfinished
  · next surrogate =>
    subst surrogate
    obtain rfl := Option.some.inj unfinished
    exact spells_three (b := 0xED) (by decide) (by decide) (by decide) (by decide) (by decide)
  split at unfinished
  · next notLeast notSurrogate three =>
    obtain rfl := Option.some.inj unfinished
    exact spells_three (three.imp_left (UInt8.le_trans (by decide))) (by decide) (by decide)
      (fun equal => absurd equal notLeast) (fun equal => absurd equal notSurrogate)
  split at unfinished
  · next least =>
    subst least
    obtain rfl := Option.some.inj unfinished
    exact spells_four (b := 0xF0) (by decide) (by decide) (by decide) (by decide) (by decide)
  split at unfinished
  · next notLeast four =>
    obtain rfl := Option.some.inj unfinished
    have notLast : b ≠ 0xF4 := by
      rintro rfl
      exact absurd four.2 (by decide)
    exact spells_four ⟨UInt8.le_trans (by decide) four.1, UInt8.le_trans four.2 (by decide)⟩
      (by decide) (by decide) (fun equal => absurd equal notLeast)
      (fun equal => absurd equal notLast)
  split at unfinished
  · next last =>
    subst last
    obtain rfl := Option.some.inj unfinished
    exact spells_four (b := 0xF4) (by decide) (by decide) (by decide) (by decide) (by decide)
  · exact absurd unfinished (Option.not_mem_none begun)

theorem spells_step (state : Option Begun) (b : UInt8) (spells : ∀ begun ∈ state, begun.Spells) :
    ∀ begun ∈ (step state b).2, begun.Spells := by
  cases state with
  | none => exact spells_lead
  | some begun =>
      rcases step_cases begun b with ⟨-, -, done⟩ | ⟨owed, fits, length, more⟩ | ⟨-, broken⟩
      · rw [done]
        exact forall_mem_none
      · rw [more]
        rintro _ ⟨⟩ next tails least most enough valid
        have whole := spells begun rfl b (next :: tails) fits.1 fits.2
          (by rw [length, List.length_cons, enough])
          (List.forall_mem_cons.mpr ⟨⟨least, most⟩, valid⟩)
        rw [withTails_cons] at whole
        rw [whole, List.append_assoc, List.singleton_append]
      · rw [broken]
        exact spells_lead

/-! ## Pieces -/

theorem encoded_invalid (bytes : Bytes) : (Piece.invalid bytes).Encoded := by
  simp [Piece.Encoded, Piece.shown, Piece.shownBytes, utf8EncodeChar, replacement]

theorem encoded_of_mem_lead {b : UInt8} : ∀ piece ∈ (lead b).1, piece.Encoded := by
  rcases lead_cases b with ⟨ascii, single⟩ | ⟨begun, begins, -⟩ | alone
  · intro piece member
    rw [single, List.mem_singleton] at member
    rw [member]
    exact encode_one ascii
  · rw [begins]
    exact List.forall_mem_nil _
  · intro piece member
    rw [alone, List.mem_singleton] at member
    rw [member]
    exact encoded_invalid [b]

theorem encoded_of_mem_step (state : Option Begun) (b : UInt8)
    (spells : ∀ begun ∈ state, begun.Spells) : ∀ piece ∈ (step state b).1, piece.Encoded := by
  cases state with
  | none => exact encoded_of_mem_lead
  | some begun =>
      intro piece member
      rcases step_cases begun b with ⟨fits, length, done⟩ | ⟨owed, -, -, more⟩ | ⟨-, broken⟩
      · rw [done, List.mem_singleton] at member
        rw [member]
        exact spells begun rfl b [] fits.1 fits.2 length.symm (List.forall_mem_nil _)
      · rw [more] at member
        exact absurd member List.not_mem_nil
      · rw [broken] at member
        rcases List.mem_cons.mp member with rfl | inLead
        · exact encoded_invalid begun.seen
        · exact encoded_of_mem_lead piece inLead

theorem encoded_of_mem_pieces (bytes : Bytes) : ∀ piece ∈ pieces bytes, piece.Encoded :=
  forall_mem_scan spells_step encoded_of_mem_step encoded_invalid forall_mem_none bytes

/-- What is shown of bytes is the encoding of the text that is read out of them. -/
theorem ofString_text (bytes : Bytes) : Bytes.ofString (text bytes) = lossy bytes := by
  rw [Bytes.ofString, text, String.toList_ofList, List.flatMap_map, lossy]
  exact List.flatMap_congr (encoded_of_mem_pieces bytes)

end Intercept.Utf8
