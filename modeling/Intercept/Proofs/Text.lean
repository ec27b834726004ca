import Intercept.Text.Utf8

/-!
# Text that is read out of bytes

A byte of ASCII is a character by itself, wherever it stands: no sequence that has begun goes on
with it, and none is begun by it. So bytes are read as text piece by piece between such bytes. The
text that is read out of bytes is then made of characters only, and reading its bytes once more
changes nothing.

Results:
1. `scan_append_cons`: the pieces before, at and behind a byte of ASCII.
2. `pieces_lossy`, `text_lossy`: the pieces of a text that was read out of bytes.
3. `lossy_append_cons`, `exists_of_lossy_eq_append_cons`: bytes of ASCII stay where they are, and
   none comes in.
4. `lossy_eq_iff`: what is read as a word of ASCII is this word.
-/

namespace Intercept.Utf8

/-! ## Definitions -/

/-- A byte that is a character by itself. -/
def IsAscii (b : UInt8) : Prop := b ≤ 0x7F

instance (b : UInt8) : Decidable (IsAscii b) := inferInstanceAs (Decidable (_ ≤ _))

/-- The piece of such a byte. -/
def asciiPiece (b : UInt8) : Piece := .scalar (Char.ofNat b.toNat) [b]

/-- The piece that is shown in place of a piece. -/
def Piece.mended : Piece → Piece
  | scalar c bytes => scalar c bytes
  | invalid _ => scalar '\uFFFD' replacement

/-- A piece that, once it is shown, is read as a character, whatever follows it. -/
def Piece.Whole (piece : Piece) : Prop :=
  ∀ rest, scan none (piece.shownBytes ++ rest) = piece.mended :: scan none rest

/-- An unfinished sequence as bytes leave it: no byte of ASCII goes on with it, and its own bytes
lead to it again. -/
structure Begun.Sound (begun : Begun) : Prop where
  least_not_ascii : 0x80 ≤ begun.least
  scan_seen : ∀ rest, scan none (begun.seen ++ rest) = scan (some begun) rest

/-! ## One byte -/

theorem scan_cons (state : Option Begun) (b : UInt8) (rest : Bytes) :
    scan state (b :: rest) = (step state b).1 ++ scan (step state b).2 rest := by
  cases state <;> rfl

/-- For a word of ASCII, byte by byte. -/
theorem isAscii_of_all {word : Bytes} (ascii : word.all (IsAscii ·) = true) :
    ∀ b ∈ word, IsAscii b :=
  fun b member => of_decide_eq_true (List.all_eq_true.mp ascii b member)

theorem lead_of_isAscii {b : UInt8} (ascii : IsAscii b) : lead b = ([asciiPiece b], none) :=
  if_pos ascii

/-- A byte that follows nothing unfinished is a piece, or it begins a sequence. -/
theorem lead_cases (b : UInt8) :
    IsAscii b ∧ lead b = ([asciiPiece b], none) ∨
    (∃ begun, lead b = ([], some begun) ∧ begun.seen = [b] ∧ 0x80 ≤ begun.least) ∨
    lead b = ([.invalid [b]], none) := by
  unfold lead
  split
  · next ascii => exact Or.inl ⟨ascii, rfl⟩
  refine Or.inr ?_
  -- In each of the next seven cases a sequence begins, and behind them none does.
  iterate 7
    split
    · exact Or.inl ⟨_, rfl, rfl, by dsimp only; decide⟩
  exact Or.inr rfl

/-- A byte that follows an unfinished sequence finishes it, goes on with it, or breaks it off and is
then read as if nothing stood in front. -/
theorem step_cases (begun : Begun) (b : UInt8) :
    (begun.least ≤ b ∧ b ≤ begun.most) ∧ begun.owed = 0 ∧
      step (some begun) b =
        ([.scalar (Char.ofNat (begun.bits * 64 + (b.toNat - 0x80))) (begun.seen ++ [b])], none) ∨
    (∃ owed, (begun.least ≤ b ∧ b ≤ begun.most) ∧ begun.owed = owed + 1 ∧
      step (some begun) b = ([], some
        { seen := begun.seen ++ [b], bits := begun.bits * 64 + (b.toNat - 0x80), owed })) ∨
    ¬ (begun.least ≤ b ∧ b ≤ begun.most) ∧
      step (some begun) b = (.invalid begun.seen :: (lead b).1, (lead b).2) := by
  unfold step
  dsimp only
  split
  · next fits =>
    cases begun.owed with
    | zero => exact Or.inl ⟨fits, rfl, rfl⟩
    | succ owed => exact Or.inr (Or.inl ⟨owed, fits, rfl, rfl⟩)
  · next outside => exact Or.inr (Or.inr ⟨outside, rfl⟩)

/-- A byte of ASCII breaks off what is unfinished and is a piece by itself. -/
theorem step_of_isAscii {state : Option Begun} (sound : ∀ begun ∈ state, begun.Sound) {b : UInt8}
    (ascii : IsAscii b) : step state b = (scan state [] ++ [asciiPiece b], none) := by
  cases state with
  | none => exact lead_of_isAscii ascii
  | some begun =>
      have outside : ¬ (begun.least ≤ b ∧ b ≤ begun.most) := by
        rintro ⟨least, -⟩
        -- The next byte of a sequence is at least 0x80, whichever sequence it is.
        have above : (0x80 : UInt8) ≤ 0x7F :=
          UInt8.le_trans (sound begun rfl).least_not_ascii (UInt8.le_trans least ascii)
        exact absurd above (by decide)
      simp only [step, if_neg outside, lead_of_isAscii ascii, scan, List.singleton_append]

/-! ## What bytes leave unfinished -/

/-- Nothing is unfinished in front of the first byte. -/
theorem forall_mem_none {Kept : Begun → Prop} : ∀ begun ∈ (none : Option Begun), Kept begun :=
  fun _ member => absurd member (Option.not_mem_none _)

theorem sound_lead {b : UInt8} : ∀ begun ∈ (lead b).2, begun.Sound := by
  rcases lead_cases b with ⟨-, ascii⟩ | ⟨first, begins, seen, least⟩ | alone
  · rw [ascii]
    exact forall_mem_none
  · rw [begins]
    rintro begun ⟨⟩
    refine ⟨least, fun rest => ?_⟩
    -- From nothing, the one byte that was seen leads to the sequence.
    rw [seen, List.singleton_append, scan_cons, step, begins]
    rfl
  · rw [alone]
    exact forall_mem_none

theorem sound_step (state : Option Begun) (b : UInt8) (sound : ∀ begun ∈ state, begun.Sound) :
    ∀ begun ∈ (step state b).2, begun.Sound := by
  cases state with
  | none => exact sound_lead
  | some begun =>
      rcases step_cases begun b with ⟨-, -, done⟩ | ⟨owed, -, -, more⟩ | ⟨-, broken⟩
      · rw [done]
        exact forall_mem_none
      · rw [more]
        rintro _ ⟨⟩
        refine ⟨UInt8.le_refl _, fun rest => ?_⟩
        -- The bytes seen before lead to the sequence as it was, and this byte leads on.
        rw [List.append_assoc, List.singleton_append, (sound begun rfl).scan_seen, scan_cons, more]
        rfl
      · rw [broken]
        exact sound_lead

/-- What holds of the pieces that single bytes finish, whatever bytes have left unfinished in front
of them, and of pieces that break off, holds of all pieces. -/
theorem forall_mem_scan {Kept : Begun → Prop} {Holds : Piece → Prop}
    (kept : ∀ state b, (∀ begun ∈ state, Kept begun) → ∀ begun ∈ (step state b).2, Kept begun)
    (finished : ∀ state b, (∀ begun ∈ state, Kept begun) → ∀ piece ∈ (step state b).1, Holds piece)
    (broken : ∀ bytes, Holds (.invalid bytes)) {state : Option Begun}
    (start : ∀ begun ∈ state, Kept begun) (bytes : Bytes) :
    ∀ piece ∈ scan state bytes, Holds piece := by
  induction bytes generalizing state with
  | nil =>
      intro piece member
      cases state with
      | none => exact absurd member List.not_mem_nil
      | some begun =>
          rw [List.mem_singleton.mp member]
          exact broken begun.seen
  | cons b rest ih =>
      intro piece member
      rw [scan_cons] at member
      rcases List.mem_append.mp member with inStep | later
      · exact finished state b start piece inStep
      · exact ih (kept state b start) piece later

/-- The pieces before, at and behind a byte of ASCII. -/
theorem scan_append_cons {b : UInt8} (ascii : IsAscii b) {state : Option Begun}
    (sound : ∀ begun ∈ state, begun.Sound) (front rest : Bytes) :
    scan state (front ++ b :: rest) = scan state front ++ asciiPiece b :: scan none rest := by
  induction front generalizing state with
  | nil =>
      rw [List.nil_append, scan_cons, step_of_isAscii sound ascii, List.append_assoc,
        List.singleton_append]
  | cons c front ih =>
      rw [List.cons_append, scan_cons, ih (sound_step state c sound), scan_cons state c front,
        List.append_assoc]

theorem pieces_append_cons {b : UInt8} (ascii : IsAscii b) (front rest : Bytes) :
    pieces (front ++ b :: rest) = pieces front ++ asciiPiece b :: pieces rest :=
  scan_append_cons ascii forall_mem_none front rest

/-! ## Reading once more what was shown -/

theorem whole_invalid (bytes : Bytes) : (Piece.invalid bytes).Whole := fun _ => rfl

theorem whole_of_mem_lead {b : UInt8} : ∀ piece ∈ (lead b).1, piece.Whole := by
  rcases lead_cases b with ⟨-, ascii⟩ | ⟨first, begins, -⟩ | alone
  · intro piece member rest
    rw [ascii, List.mem_singleton] at member
    rw [member]
    exact (scan_cons none b rest).trans (by rw [step, ascii]; rfl)
  · rw [begins]
    exact List.forall_mem_nil _
  · rw [alone]
    intro piece member
    rw [List.mem_singleton.mp member]
    exact whole_invalid [b]

theorem whole_of_mem_step (state : Option Begun) (b : UInt8)
    (sound : ∀ begun ∈ state, begun.Sound) : ∀ piece ∈ (step state b).1, piece.Whole := by
  cases state with
  | none => exact whole_of_mem_lead
  | some begun =>
      rcases step_cases begun b with ⟨-, -, done⟩ | ⟨owed, -, -, more⟩ | ⟨-, broken⟩
      · rw [done]
        intro piece member rest
        rw [List.mem_singleton.mp member, Piece.shownBytes, List.append_assoc,
          List.singleton_append, (sound begun rfl).scan_seen, scan_cons, done]
        rfl
      · rw [more]
        exact List.forall_mem_nil _
      · rw [broken]
        intro piece member
        rcases List.mem_cons.mp member with rfl | inLead
        · exact whole_invalid begun.seen
        · exact whole_of_mem_lead piece inLead

theorem pieces_flatMap_shownBytes {shown : List Piece} (whole : ∀ piece ∈ shown, piece.Whole) :
    pieces (shown.flatMap Piece.shownBytes) = shown.map Piece.mended := by
  induction shown with
  | nil => rfl
  | cons piece rest ih =>
      obtain ⟨first, later⟩ := List.forall_mem_cons.mp whole
      rw [List.flatMap_cons, pieces, first, List.map_cons]
      exact congrArg (piece.mended :: ·) (ih later)

theorem whole_of_mem_pieces (bytes : Bytes) : ∀ piece ∈ pieces bytes, piece.Whole :=
  forall_mem_scan sound_step whole_of_mem_step whole_invalid forall_mem_none bytes

/-- The pieces of a text that was read out of bytes are those that are shown. -/
theorem pieces_lossy (bytes : Bytes) : pieces (lossy bytes) = (pieces bytes).map Piece.mended :=
  pieces_flatMap_shownBytes (whole_of_mem_pieces bytes)

theorem shown_mended (piece : Piece) : piece.mended.shown = piece.shown := by
  cases piece <;> rfl

theorem text_lossy (bytes : Bytes) : text (lossy bytes) = text bytes := by
  rw [text, pieces_lossy, List.map_map]
  exact congrArg String.ofList (List.map_congr_left fun piece _ => shown_mended piece)

/-! ## Bytes of ASCII in what is shown -/

theorem lossy_nil : lossy [] = [] := rfl

theorem lossy_append_cons {b : UInt8} (ascii : IsAscii b) (front rest : Bytes) :
    lossy (front ++ b :: rest) = lossy front ++ b :: lossy rest := by
  rw [lossy, pieces_append_cons ascii, List.flatMap_append, List.flatMap_cons]
  rfl

theorem lossy_cons {b : UInt8} (ascii : IsAscii b) (rest : Bytes) :
    lossy (b :: rest) = b :: lossy rest :=
  lossy_append_cons ascii [] rest

/-- A word of ASCII in front is shown as it is. -/
theorem lossy_append {word : Bytes} (ascii : ∀ b ∈ word, IsAscii b) (rest : Bytes) :
    lossy (word ++ rest) = word ++ lossy rest := by
  induction word with
  | nil => rfl
  | cons b word ih =>
      obtain ⟨first, later⟩ := List.forall_mem_cons.mp ascii
      rw [List.cons_append, lossy_cons first, ih later, List.cons_append]

theorem lossy_eq_nil_iff {bytes : Bytes} : lossy bytes = [] ↔ bytes = [] := by
  constructor
  · intro nothing
    have none_shown : (pieces bytes).map Piece.mended = [] := by
      rw [← pieces_lossy, nothing]
      rfl
    rw [← flatMap_bytes_pieces bytes, List.map_eq_nil_iff.mp none_shown]
    rfl
  · rintro rfl
    exact lossy_nil

/-- The bytes that replace a piece are no ASCII, and no other byte comes in. -/
theorem mem_lossy_iff {b : UInt8} (ascii : IsAscii b) {bytes : Bytes} :
    b ∈ lossy bytes ↔ b ∈ bytes := by
  constructor
  · intro member
    obtain ⟨piece, inPieces, shown⟩ := List.mem_flatMap.mp member
    cases piece with
    | invalid broken =>
        have high : replacement.all (¬ IsAscii ·) = true := by decide
        exact absurd ascii (of_decide_eq_true (List.all_eq_true.mp high b shown))
    | scalar c bytes' =>
        rw [← flatMap_bytes_pieces bytes]
        exact List.mem_flatMap.mpr ⟨_, inPieces, shown⟩
  · intro member
    obtain ⟨front, rest, rfl⟩ := List.append_of_mem member
    rw [lossy_append_cons ascii]
    exact List.mem_append_right _ List.mem_cons_self

/-- A byte of ASCII that is shown stands in the bytes, and they are read in front of it and behind
it as what is shown there. -/
theorem exists_of_lossy_eq_append_cons {b : UInt8} (ascii : IsAscii b) {bytes front rest : Bytes}
    (shown : lossy bytes = front ++ b :: rest) :
    ∃ before after, bytes = before ++ b :: after ∧ lossy before = front ∧ lossy after = rest := by
  have member : b ∈ bytes := by
    rw [← mem_lossy_iff ascii, shown]
    exact List.mem_append_right _ List.mem_cons_self
  obtain ⟨first, more, rfl, absent⟩ := List.eq_append_cons_of_mem member
  rw [lossy_append_cons ascii] at shown
  -- The byte is shown where it first stands, or behind that.
  rcases List.append_eq_append_iff.mp shown with ⟨between, ends, cut⟩ | ⟨between, ends, cut⟩
  · cases between with
    | nil => exact ⟨first, more, rfl, by simpa using ends.symm, (List.cons.inj cut).2⟩
    | cons c between =>
        obtain ⟨rfl, later⟩ : b = c ∧ lossy more = between ++ b :: rest := List.cons.inj cut
        obtain ⟨before, after, rfl, atFront, atBack⟩ := exists_of_lossy_eq_append_cons ascii later
        refine ⟨first ++ b :: before, after, by simp, ?_, atBack⟩
        rw [lossy_append_cons ascii, atFront, ends]
  · cases between with
    | nil => exact ⟨first, more, rfl, by simpa using ends, (List.cons.inj cut).2.symm⟩
    | cons c between =>
        obtain ⟨rfl, -⟩ : b = c ∧ rest = between ++ b :: lossy more := List.cons.inj cut
        refine absurd ((mem_lossy_iff ascii).mp ?_) absent
        rw [ends]
        exact List.mem_append_right _ List.mem_cons_self
termination_by front.length
decreasing_by
  rw [ends, List.length_append, List.length_cons]
  omega

theorem exists_of_lossy_eq_cons {b : UInt8} (ascii : IsAscii b) {bytes rest : Bytes}
    (shown : lossy bytes = b :: rest) : ∃ after, bytes = b :: after ∧ lossy after = rest := by
  rw [← List.nil_append (b :: rest)] at shown
  obtain ⟨before, after, rfl, nothing, behind⟩ := exists_of_lossy_eq_append_cons ascii shown
  rw [lossy_eq_nil_iff.mp nothing]
  exact ⟨after, rfl, behind⟩

/-- What is shown begins with a word of ASCII only if the bytes begin with it. -/
theorem exists_of_lossy_eq_append {word bytes rest : Bytes} (ascii : ∀ b ∈ word, IsAscii b)
    (shown : lossy bytes = word ++ rest) : ∃ after, bytes = word ++ after ∧ lossy after = rest := by
  induction word generalizing bytes with
  | nil => exact ⟨bytes, rfl, shown⟩
  | cons b word ih =>
      obtain ⟨first, later⟩ := List.forall_mem_cons.mp ascii
      obtain ⟨more, rfl, behind⟩ := exists_of_lossy_eq_cons first shown
      obtain ⟨after, rfl, atEnd⟩ := ih later behind
      exact ⟨after, rfl, atEnd⟩

/-- What is read as a word of ASCII is this word. -/
theorem lossy_eq_iff {word bytes : Bytes} (ascii : ∀ b ∈ word, IsAscii b) :
    lossy bytes = word ↔ bytes = word := by
  constructor
  · intro shown
    rw [← List.append_nil word] at shown
    obtain ⟨after, rfl, nothing⟩ := exists_of_lossy_eq_append ascii shown
    rw [lossy_eq_nil_iff.mp nothing, List.append_nil]
  · rintro rfl
    have whole := lossy_append ascii []
    rwa [lossy_nil, List.append_nil] at whole

end Intercept.Utf8
