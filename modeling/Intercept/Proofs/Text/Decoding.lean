import Intercept.Proofs.Text.Encoding

/-!
# Reading the encoding of a text

The encoding of a character is read as this character and nothing else, whatever follows it. So a
text is read back from its bytes, and the byte strings that can be read without replacing anything
are the encodings of texts.

Results:
1. `scan_sequence`: a sequence that has begun, and the bytes that it owes, are one piece.
2. `scan_ofNat_one` to `scan_ofNat_four`, `scan_encode`: the encoding of a character is its piece.
3. `text_ofString`, `lossy_ofString`: a text is read back from its encoding, and shown as it is.
4. `lossy_eq_self_iff`: only the encoding of a text is shown as it is.
5. `text?_eq_some_iff`: which bytes are read as a text without loss.
-/

namespace Intercept.Utf8

open String (utf8EncodeChar)

/-- Bytes that encode a text. -/
def IsText (bytes : Bytes) : Prop := ∃ s, bytes = Bytes.ofString s

/-! ## A sequence and the bytes that it owes -/

theorem scan_sequence {begun : Begun} {b : UInt8} {tails : Bytes}
    (fits : begun.least ≤ b ∧ b ≤ begun.most) (enough : tails.length = begun.owed)
    (valid : ∀ tail ∈ tails, IsTail tail) (rest : Bytes) :
    scan (some begun) (b :: tails ++ rest) =
      .scalar (Char.ofNat (withTails begun.bits (b :: tails))) (begun.seen ++ b :: tails) ::
        scan none rest := by
  induction tails generalizing begun b with
  | nil =>
      have done : begun.owed = 0 := enough.symm
      rw [List.cons_append, List.nil_append, scan_cons]
      simp only [step, if_pos fits, done]
      rfl
  | cons next tails ih =>
      have more : begun.owed = tails.length + 1 := enough.symm
      obtain ⟨first, later⟩ := List.forall_mem_cons.mp valid
      -- From here on the range is that of any byte that goes on with a sequence.
      let longer : Begun :=
        { seen := begun.seen ++ [b]
          bits := begun.bits * 64 + (b.toNat - 0x80)
          owed := tails.length }
      have goesOn : step (some begun) b = ([], some longer) := by
        simp only [step, if_pos fits, more]
        rfl
      have fitsLonger : longer.least ≤ next ∧ next ≤ longer.most := first
      rw [List.cons_append, scan_cons, goesOn, List.nil_append, ih fitsLonger rfl later,
        withTails_cons begun.bits, List.append_assoc, List.singleton_append]

/-- The same from the byte that begins the sequence. -/
theorem scan_of_lead {a b : UInt8} {begun : Begun} (begins : lead a = ([], some begun))
    (seen : begun.seen = [a]) (fits : begun.least ≤ b ∧ b ≤ begun.most) (tails : Bytes)
    (enough : tails.length = begun.owed) (valid : ∀ tail ∈ tails, IsTail tail) (rest : Bytes) :
    scan none (a :: b :: tails ++ rest) =
      .scalar (Char.ofNat (withTails begun.bits (b :: tails))) (a :: b :: tails) ::
        scan none rest := by
  rw [List.cons_append, scan_cons, step, begins, List.nil_append,
    scan_sequence fits enough valid, seen, List.singleton_append]

/-! ## Sequences of two, three and four bytes -/

theorem scan_two {a b : UInt8} (range : 0xC2 ≤ a ∧ a ≤ 0xDF) (tail : IsTail b) (rest : Bytes) :
    scan none ([a, b] ++ rest) =
      .scalar (Char.ofNat (withTails (a.toNat - 0xC0) [b])) [a, b] :: scan none rest := by
  have high : ¬ a ≤ 0x7F := fun low => absurd (UInt8.le_trans range.1 low) (by decide)
  have begins : lead a = ([], some { seen := [a], bits := a.toNat - 0xC0, owed := 0 }) := by
    rw [lead, if_neg high, if_pos range]
  exact scan_of_lead begins rfl tail [] rfl (List.forall_mem_nil _) rest

/-- The range of the second byte rules out a longer form of two bytes, and the surrogates. -/
theorem exists_lead_three {a b : UInt8} (range : 0xE0 ≤ a ∧ a ≤ 0xEF) (tail : IsTail b)
    (shortest : a = 0xE0 → 0xA0 ≤ b) (valid : a = 0xED → b ≤ 0x9F) :
    ∃ begun, lead a = ([], some begun) ∧ begun.seen = [a] ∧ begun.bits = a.toNat - 0xE0 ∧
      begun.owed = 1 ∧ begun.least ≤ b ∧ b ≤ begun.most := by
  by_cases least : a = 0xE0
  · subst least
    exact ⟨_, rfl, rfl, rfl, rfl, shortest rfl, tail.2⟩
  by_cases surrogate : a = 0xED
  · subst surrogate
    exact ⟨_, rfl, rfl, rfl, rfl, tail.1, valid rfl⟩
  have high : ¬ a ≤ 0x7F := fun low => absurd (UInt8.le_trans range.1 low) (by decide)
  have notTwo : ¬ (0xC2 ≤ a ∧ a ≤ 0xDF) := fun two =>
    absurd (UInt8.le_trans range.1 two.2) (by decide)
  have three : 0xE1 ≤ a ∧ a ≤ 0xEF := by
    simp only [UInt8.le_iff_toNat_le, ← UInt8.toNat_inj, UInt8.reduceToNat] at *
    omega
  refine ⟨{ seen := [a], bits := a.toNat - 0xE0, owed := 1 }, ?_, rfl, rfl, rfl, tail⟩
  rw [lead, if_neg high, if_neg notTwo, if_neg least, if_neg surrogate, if_pos three]

theorem scan_three {a b c : UInt8} (range : 0xE0 ≤ a ∧ a ≤ 0xEF) (first : IsTail b)
    (second : IsTail c) (shortest : a = 0xE0 → 0xA0 ≤ b) (valid : a = 0xED → b ≤ 0x9F)
    (rest : Bytes) :
    scan none ([a, b, c] ++ rest) =
      .scalar (Char.ofNat (withTails (a.toNat - 0xE0) [b, c])) [a, b, c] :: scan none rest := by
  obtain ⟨begun, begins, seen, bits, owed, fits⟩ := exists_lead_three range first shortest valid
  rw [← bits]
  exact scan_of_lead begins seen fits [c] owed.symm (List.forall_mem_singleton.mpr second) rest

/-- The range of the second byte rules out a longer form of three bytes, and what is beyond the last
character. -/
theorem exists_lead_four {a b : UInt8} (range : 0xF0 ≤ a ∧ a ≤ 0xF4) (tail : IsTail b)
    (shortest : a = 0xF0 → 0x90 ≤ b) (valid : a = 0xF4 → b ≤ 0x8F) :
    ∃ begun, lead a = ([], some begun) ∧ begun.seen = [a] ∧ begun.bits = a.toNat - 0xF0 ∧
      begun.owed = 2 ∧ begun.least ≤ b ∧ b ≤ begun.most := by
  by_cases least : a = 0xF0
  · subst least
    exact ⟨_, rfl, rfl, rfl, rfl, shortest rfl, tail.2⟩
  by_cases last : a = 0xF4
  · subst last
    exact ⟨_, rfl, rfl, rfl, rfl, tail.1, valid rfl⟩
  have above (most : UInt8) (low : most < 0xF0) : ¬ a ≤ most := fun below =>
    absurd (UInt8.le_trans range.1 below) (UInt8.not_le.mpr low)
  have other (single : UInt8) (low : single < 0xF0) : a ≠ single := fun equal =>
    above single low (equal ▸ UInt8.le_refl a)
  have four : 0xF1 ≤ a ∧ a ≤ 0xF3 := by
    simp only [UInt8.le_iff_toNat_le, ← UInt8.toNat_inj, UInt8.reduceToNat] at *
    omega
  refine ⟨{ seen := [a], bits := a.toNat - 0xF0, owed := 2 }, ?_, rfl, rfl, rfl, tail⟩
  rw [lead, if_neg (above 0x7F (by decide)), if_neg (fun two => above 0xDF (by decide) two.2),
    if_neg (other 0xE0 (by decide)), if_neg (other 0xED (by decide)),
    if_neg (fun three => above 0xEF (by decide) three.2), if_neg least, if_pos four]

theorem scan_four {a b c d : UInt8} (range : 0xF0 ≤ a ∧ a ≤ 0xF4) (first : IsTail b)
    (second : IsTail c) (third : IsTail d) (shortest : a = 0xF0 → 0x90 ≤ b)
    (valid : a = 0xF4 → b ≤ 0x8F) (rest : Bytes) :
    scan none ([a, b, c, d] ++ rest) =
      .scalar (Char.ofNat (withTails (a.toNat - 0xF0) [b, c, d])) [a, b, c, d] ::
        scan none rest := by
  obtain ⟨begun, begins, seen, bits, owed, fits⟩ := exists_lead_four range first shortest valid
  have tails : ∀ tail ∈ [c, d], IsTail tail :=
    List.forall_mem_cons.mpr ⟨second, List.forall_mem_singleton.mpr third⟩
  rw [← bits]
  exact scan_of_lead begins seen fits [c, d] owed.symm tails rest

/-! ## The encoding of a character -/

theorem toNat_ofNat_of_lt {n : Nat} (small : n < 256) : (UInt8.ofNat n).toNat = n := by
  rw [UInt8.toNat_ofNat', Nat.mod_eq_of_lt small]

theorem isTail_ofNat (n : Nat) : IsTail (UInt8.ofNat (n % 64 + 128)) := by
  simp only [IsTail, UInt8.le_iff_toNat_le, UInt8.reduceToNat,
    toNat_ofNat_of_lt (show n % 64 + 128 < 256 by omega)]
  omega

theorem withTails_ofNat (bits n : Nat) (tails : Bytes) :
    withTails bits (UInt8.ofNat (n % 64 + 128) :: tails) =
      withTails (bits * 64 + n % 64) tails := by
  rw [withTails_cons, toNat_ofNat_of_lt (by omega), Nat.add_sub_cancel]

/-- The bytes of a number that takes one, two, three or four of them are read as its character. -/
theorem scan_ofNat_one {n : Nat} (range : n ≤ 0x7F) (rest : Bytes) :
    scan none ([UInt8.ofNat n] ++ rest) =
      .scalar (Char.ofNat n) [UInt8.ofNat n] :: scan none rest := by
  have value : (UInt8.ofNat n).toNat = n := toNat_ofNat_of_lt (by omega)
  have ascii : IsAscii (UInt8.ofNat n) := by
    rw [IsAscii, UInt8.le_iff_toNat_le, value]
    exact range
  rw [List.singleton_append, scan_cons, step, lead_of_isAscii ascii, asciiPiece, value]
  rfl

theorem scan_ofNat_two {n : Nat} (range : 0x7F < n ∧ n ≤ 0x7FF) (rest : Bytes) :
    let bytes := [UInt8.ofNat (n / 64 % 32 + 192), UInt8.ofNat (n % 64 + 128)]
    scan none (bytes ++ rest) = .scalar (Char.ofNat n) bytes :: scan none rest := by
  have first : (UInt8.ofNat (n / 64 % 32 + 192)).toNat = n / 64 % 32 + 192 :=
    toNat_ofNat_of_lt (by omega)
  have number : (n / 64 % 32 + 192 - 192) * 64 + n % 64 = n := by omega
  dsimp only
  rw [scan_two _ (isTail_ofNat n), withTails_ofNat, first]
  · rw [withTails, List.foldl_nil, number]
  · simp only [UInt8.le_iff_toNat_le, UInt8.reduceToNat, first]
    omega

theorem scan_ofNat_three {n : Nat} (range : 0x7FF < n ∧ n ≤ 0xFFFF)
    (valid : n < 0xD800 ∨ 0xDFFF < n) (rest : Bytes) :
    let bytes := [UInt8.ofNat (n / 4096 % 16 + 224), UInt8.ofNat (n / 64 % 64 + 128),
      UInt8.ofNat (n % 64 + 128)]
    scan none (bytes ++ rest) = .scalar (Char.ofNat n) bytes :: scan none rest := by
  have first : (UInt8.ofNat (n / 4096 % 16 + 224)).toNat = n / 4096 % 16 + 224 :=
    toNat_ofNat_of_lt (by omega)
  have second : (UInt8.ofNat (n / 64 % 64 + 128)).toNat = n / 64 % 64 + 128 :=
    toNat_ofNat_of_lt (by omega)
  have number : ((n / 4096 % 16 + 224 - 224) * 64 + n / 64 % 64) * 64 + n % 64 = n := by omega
  dsimp only
  rw [scan_three _ (isTail_ofNat (n / 64)) (isTail_ofNat n), withTails_ofNat, withTails_ofNat,
    first]
  · rw [withTails, List.foldl_nil, number]
  all_goals
    simp only [UInt8.le_iff_toNat_le, ← UInt8.toNat_inj, UInt8.reduceToNat, first, second]
    omega

theorem scan_ofNat_four {n : Nat} (range : 0xFFFF < n ∧ n < 0x110000) (rest : Bytes) :
    let bytes := [UInt8.ofNat (n / 262144 % 8 + 240), UInt8.ofNat (n / 4096 % 64 + 128),
      UInt8.ofNat (n / 64 % 64 + 128), UInt8.ofNat (n % 64 + 128)]
    scan none (bytes ++ rest) = .scalar (Char.ofNat n) bytes :: scan none rest := by
  have first : (UInt8.ofNat (n / 262144 % 8 + 240)).toNat = n / 262144 % 8 + 240 :=
    toNat_ofNat_of_lt (by omega)
  have second : (UInt8.ofNat (n / 4096 % 64 + 128)).toNat = n / 4096 % 64 + 128 :=
    toNat_ofNat_of_lt (by omega)
  have number : (((n / 262144 % 8 + 240 - 240) * 64 + n / 4096 % 64) * 64 + n / 64 % 64) * 64 +
      n % 64 = n := by omega
  dsimp only
  rw [scan_four _ (isTail_ofNat (n / 4096)) (isTail_ofNat (n / 64)) (isTail_ofNat n),
    withTails_ofNat, withTails_ofNat, withTails_ofNat, first]
  · rw [withTails, List.foldl_nil, number]
  all_goals
    simp only [UInt8.le_iff_toNat_le, ← UInt8.toNat_inj, UInt8.reduceToNat, first, second]
    omega

/-- The encoding of a character is read as this character, whatever follows it. -/
theorem scan_encode (c : Char) (rest : Bytes) :
    scan none (utf8EncodeChar c ++ rest) = .scalar c (utf8EncodeChar c) :: scan none rest := by
  have valid : c.val.toNat < 0xD800 ∨ 0xDFFF < c.val.toNat ∧ c.val.toNat < 0x110000 := c.valid
  have self : Char.ofNat c.val.toNat = c := Char.ofNat_toNat c
  unfold utf8EncodeChar
  generalize c.val.toNat = n at valid self
  subst self
  dsimp only
  split
  · next one => exact scan_ofNat_one one rest
  split
  · next more two => exact scan_ofNat_two ⟨by omega, two⟩ rest
  split
  · next more three => exact scan_ofNat_three ⟨by omega, three⟩ (by omega) rest
  · next more => exact scan_ofNat_four ⟨by omega, by omega⟩ rest

/-! ## Texts -/

/-- The pieces of an encoded text are its characters. -/
theorem pieces_ofString (s : String) :
    pieces (Bytes.ofString s) = s.toList.map fun c => .scalar c (utf8EncodeChar c) := by
  unfold pieces Bytes.ofString
  induction s.toList with
  | nil => rfl
  | cons c cs ih => rw [List.flatMap_cons, scan_encode, ih, List.map_cons]

/-- A text is read back from its encoding. -/
theorem text_ofString (s : String) : text (Bytes.ofString s) = s := by
  rw [text, pieces_ofString, List.map_map]
  exact (congrArg String.ofList (List.map_id s.toList)).trans String.ofList_toList

/-- An encoded text is shown as it is. -/
theorem lossy_ofString (s : String) : lossy (Bytes.ofString s) = Bytes.ofString s := by
  rw [← ofString_text, text_ofString]

theorem lossy_eq_self_iff {bytes : Bytes} : lossy bytes = bytes ↔ IsText bytes := by
  constructor
  · intro kept
    exact ⟨text bytes, by rw [ofString_text, kept]⟩
  · rintro ⟨s, rfl⟩
    exact lossy_ofString s

instance (bytes : Bytes) : Decidable (IsText bytes) := decidable_of_iff _ lossy_eq_self_iff

/-- The bytes that are read as a text without loss are those of its encoding. -/
theorem text?_eq_some_iff {bytes : Bytes} {s : String} :
    text? bytes = some s ↔ bytes = Bytes.ofString s := by
  constructor
  · intro whole
    unfold text? at whole
    split at whole
    · next scalars =>
      have kept : lossy bytes = bytes := by
        conv_rhs => rw [← flatMap_bytes_pieces bytes]
        refine List.flatMap_congr fun piece member => ?_
        cases piece with
        | scalar c own => rfl
        | invalid own => exact nomatch List.all_eq_true.mp scalars _ member
      rw [← Option.some.inj whole, ofString_text, kept]
    · exact nomatch whole
  · rintro rfl
    have scalars : (pieces (Bytes.ofString s)).all Piece.isScalar = true := by
      rw [pieces_ofString, List.all_map]
      exact List.all_eq_true.mpr fun c _ => rfl
    rw [text?, if_pos scalars, text_ofString]

end Intercept.Utf8
