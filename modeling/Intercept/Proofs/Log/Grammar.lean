import Intercept.Proofs.Log.Reading
import Mathlib.Data.List.TakeWhile

/-!
# A log by its chunks

Reading walks over the chunks of a log and counts lines as it goes. This module says what it comes
to without the walk and without the counter: the chunks of a log are its only chunking, each that
holds anything stands for the record of its first two lines, and the first that holds a single line
is the fault of the log, on the line that its first byte stands on.

Results:
1. `record?_eq_ofChunk`: the record of a chunk by its lines.
2. `readFrom_append_bare`: the first chunk of a single line decides.
3. `readFrom_eq_error_iff`, `readFrom_eq_ok_ofChunk_iff`: faults and records by chunks.
4. `sources_map_ofChunk`: the sources are the first lines.
5. `existsUnique_chunking`, `line_le_of_read`: the chunks, and the line of a fault.
6. `read_by_chunks`: all of this together.
-/

namespace Intercept

/-! ## Definitions -/

/-- The bytes in front of the first newline. -/
def Bytes.firstLine (bytes : Bytes) : Bytes := bytes.takeWhile (· ≠ Bytes.newline)

/-- The bytes between the first newline and the second one. -/
def Bytes.secondLine (bytes : Bytes) : Bytes :=
  Bytes.firstLine (bytes.drop (bytes.firstLine.length + 1))

/-- The record that is made of the first two lines of a chunk. -/
def Record.ofChunk (chunk : Bytes) : Record :=
  ⟨Record.sourceOfLine chunk.firstLine, chunk.secondLine⟩

namespace Log

/-- A chunk that holds a line, and no second one. -/
structure IsBare (chunk : Bytes) : Prop where
  ne_nil : chunk ≠ []
  single : Bytes.newline ∉ chunk

instance (chunk : Bytes) : Decidable (IsBare chunk) :=
  decidable_of_iff (chunk ≠ [] ∧ Bytes.newline ∉ chunk)
    ⟨fun ⟨nonempty, single⟩ => ⟨nonempty, single⟩, fun ⟨nonempty, single⟩ => ⟨nonempty, single⟩⟩

theorem not_isBare_iff {chunk : Bytes} :
    ¬ IsBare chunk ↔ (chunk ≠ [] → Bytes.newline ∈ chunk) := by
  constructor
  · intro other nonempty
    by_contra single
    exact other ⟨nonempty, single⟩
  · rintro lines ⟨nonempty, single⟩
    exact single (lines nonempty)

end Log

/-! ## The first two lines -/

namespace Bytes

theorem firstLine_of_not_mem {bytes : Bytes} (absent : newline ∉ bytes) :
    bytes.firstLine = bytes := by
  refine List.takeWhile_eq_self_iff.mpr fun b member => ?_
  exact decide_eq_true fun equal => absent (equal ▸ member)

theorem firstLine_append_cons {line : Bytes} (absent : newline ∉ line) (rest : Bytes) :
    (line ++ newline :: rest).firstLine = line := by
  have inLine : ∀ b ∈ line, decide (b ≠ newline) = true :=
    List.takeWhile_eq_self_iff.mp (firstLine_of_not_mem absent)
  rw [firstLine, List.takeWhile_append_of_pos inLine, List.takeWhile_cons_of_neg (by simp),
    List.append_nil]

theorem secondLine_append_cons {line : Bytes} (absent : newline ∉ line) (rest : Bytes) :
    (line ++ newline :: rest).secondLine = rest.firstLine := by
  rw [secondLine, firstLine_append_cons absent, List.append_cons, List.drop_left' (by simp)]

theorem exists_splitAt_eq_firstLine_cons (bytes : Bytes) :
    ∃ more, splitAt newline bytes = bytes.firstLine :: more := by
  by_cases member : newline ∈ bytes
  · obtain ⟨line, rest, rfl, absent⟩ := List.eq_append_cons_of_mem member
    exact ⟨_, by rw [splitAt_append_cons absent, firstLine_append_cons absent]⟩
  · exact ⟨[], by rw [splitAt_eq_singleton member, firstLine_of_not_mem member]⟩

end Bytes

namespace Log

/-! ## The record of a chunk -/

/-- A chunk with a second line holds the record of its first two lines. -/
theorem record?_eq_ofChunk {chunk : Bytes} (lines : Bytes.newline ∈ chunk) :
    record? chunk = some (Record.ofChunk chunk) := by
  obtain ⟨line, rest, rfl, absent⟩ := List.eq_append_cons_of_mem lines
  obtain ⟨more, cut⟩ := Bytes.exists_splitAt_eq_firstLine_cons rest
  rw [record?_append_cons absent cut, Record.ofChunk, Bytes.firstLine_append_cons absent,
    Bytes.secondLine_append_cons absent]

/-- Of chunks none of which is bare, those that hold anything hold the records. -/
theorem filterMap_record?_eq {parts : List Bytes} (whole : ∀ part ∈ parts, ¬ IsBare part) :
    parts.filterMap record? = (parts.filter (· ≠ [])).map Record.ofChunk := by
  induction parts with
  | nil => rfl
  | cons part rest ih =>
      obtain ⟨first, later⟩ := List.forall_mem_cons.mp whole
      by_cases empty : part = []
      · rw [empty, List.filterMap_cons_none record?_nil, List.filter_cons_of_neg (by simp),
          ih later]
      · have lines : Bytes.newline ∈ part := not_isBare_iff.mp first empty
        rw [List.filterMap_cons_some (record?_eq_ofChunk lines),
          List.filter_cons_of_pos (by simp [empty]), ih later, List.map_cons]

/-- The sources of the records of chunks are their first lines, but for the word for none. -/
theorem sources_map_ofChunk (parts : List Bytes) :
    Record.sources (parts.map Record.ofChunk) =
      (parts.map Bytes.firstLine).filter (· ≠ Record.absent) := by
  induction parts with
  | nil => rfl
  | cons part rest ih =>
      rw [Record.sources] at ih ⊢
      rw [List.map_cons, List.map_cons]
      by_cases word : part.firstLine = Record.absent
      · have none_named : (Record.ofChunk part).source = none := if_pos word
        rw [List.filterMap_cons_none none_named, List.filter_cons_of_neg (by simp [word]), ih]
      · have named : (Record.ofChunk part).source = some part.firstLine := if_neg word
        rw [List.filterMap_cons_some named, List.filter_cons_of_pos (by simp [word]), ih]

/-! ## Faults and records -/

theorem readFrom_eq_ok_ofChunk_iff {line : Nat} {parts : List Bytes} {rs : List Record} :
    readFrom line parts = .ok rs ↔
      (∀ part ∈ parts, ¬ IsBare part) ∧ rs = (parts.filter (· ≠ [])).map Record.ofChunk := by
  rw [readFrom_eq_ok_iff]
  simp only [← not_isBare_iff]
  exact and_congr_right fun whole => by rw [filterMap_record?_eq whole]

/-- The first bare chunk decides. Its line is the one that the chunks in front of it end on. -/
theorem readFrom_append_bare {before : List Bytes} (whole : ∀ part ∈ before, ¬ IsBare part)
    {part : Bytes} (bare : IsBare part) (line : Nat) (after : List Bytes) :
    readFrom line (before ++ part :: after) =
      .error (noCommand (line + newlines (ended before)) part) := by
  rw [readFrom_append, readFrom_eq_ok_ofChunk_iff.mpr ⟨whole, rfl⟩, newlines_ended,
    readFrom_cons_of_not_mem bare.ne_nil bare.single]
  rfl

/-- Among chunks one of which is bare there is a first bare one. -/
theorem exists_first_bare {parts : List Bytes} (found : ∃ part ∈ parts, IsBare part) :
    ∃ before part after, parts = before ++ part :: after ∧
      (∀ earlier ∈ before, ¬ IsBare earlier) ∧ IsBare part := by
  have isSome : (parts.find? (IsBare ·)).isSome := by
    simpa [List.find?_isSome] using found
  obtain ⟨part, first⟩ := Option.isSome_iff_exists.mp isSome
  obtain ⟨bare, before, after, cut, earlier⟩ := List.find?_eq_some_iff_append.mp first
  exact ⟨before, part, after, cut, by simpa using earlier, by simpa using bare⟩

theorem readFrom_eq_error_iff {line : Nat} {parts : List Bytes} {m : Malformed} :
    readFrom line parts = .error m ↔
      ∃ before part after, parts = before ++ part :: after ∧
        (∀ earlier ∈ before, ¬ IsBare earlier) ∧ IsBare part ∧
        m = noCommand (line + newlines (ended before)) part := by
  constructor
  · intro refused
    have found : ∃ part ∈ parts, IsBare part := by
      by_contra nothing
      have whole : ∀ part ∈ parts, ¬ IsBare part := fun part member bare =>
        nothing ⟨part, member, bare⟩
      rw [readFrom_eq_ok_ofChunk_iff.mpr ⟨whole, rfl⟩] at refused
      exact nomatch refused
    obtain ⟨before, part, after, rfl, earlier, bare⟩ := exists_first_bare found
    rw [readFrom_append_bare earlier bare] at refused
    exact ⟨before, part, after, rfl, earlier, bare, (Except.error.inj refused).symm⟩
  · rintro ⟨before, part, after, rfl, earlier, bare, rfl⟩
    exact readFrom_append_bare earlier bare line after

/-! ## Logs -/

/-- The chunks of a log are its chunking, whichever way that was found. -/
theorem existsUnique_chunking (bytes : Bytes) :
    ∃! parts, Chunking parts ∧ joined parts = bytes := by
  refine ⟨chunks bytes, ⟨chunking_chunks bytes, joined_chunks bytes⟩, ?_⟩
  rintro parts ⟨chunking, rfl⟩
  exact (chunks_joined chunking).symm

/-- A fault stands on a line of the log. -/
theorem line_le_of_read {bytes : Bytes} {m : Malformed} (refused : read bytes = .error m) :
    m.line ≤ 1 + newlines bytes := by
  obtain ⟨before, part, after, cut, -, -, rfl⟩ := readFrom_eq_error_iff.mp refused
  have whole : bytes = ended before ++ joined (part :: after) := by
    rw [← joined_append (List.cons_ne_nil part after), ← cut, joined_chunks]
  have front : newlines (ended before) ≤ newlines bytes := by
    rw [whole, newlines_append]
    exact Nat.le_add_right _ _
  exact Nat.add_le_add_left front 1

/-- Reading a log by its chunks. There is one way to cut the log at blank lines such that no chunk
holds a blank line and none but the last ends in a newline. If a chunk holds a single line, the log
is refused: the first such chunk is quoted, and the line is the one that its first byte stands on,
counted by the newlines in front of it. Otherwise the log is read as one record for each chunk that
holds anything: the first line names the source, unless it is the word for none, the second line is
the command, and further lines are left out. So the sources are the first lines but for that
word. -/
theorem read_by_chunks (bytes : Bytes) :
    (∃! parts, Chunking parts ∧ joined parts = bytes) ∧
    ∀ parts, Chunking parts → joined parts = bytes →
      ((∃ m, read bytes = .error m) ↔ ∃ part ∈ parts, IsBare part) ∧
      (∀ m, read bytes = .error m ↔
        ∃ before part after, parts = before ++ part :: after ∧
          bytes = ended before ++ joined (part :: after) ∧
          (∀ earlier ∈ before, ¬ IsBare earlier) ∧ IsBare part ∧
          m.line = 1 + newlines (ended before) ∧
          m.detail = "record for '" ++ Utf8.text part ++ "' has no command line") ∧
      (∀ m, read bytes = .error m → m.line ≤ 1 + newlines bytes) ∧
      (∀ rs, read bytes = .ok rs ↔
        (∀ part ∈ parts, ¬ IsBare part) ∧ rs = (parts.filter (· ≠ [])).map Record.ofChunk) ∧
      ∀ rs, read bytes = .ok rs →
        Record.sources rs =
          ((parts.filter (· ≠ [])).map Bytes.firstLine).filter (· ≠ Record.absent) := by
  refine ⟨existsUnique_chunking bytes, ?_⟩
  rintro parts chunking rfl
  have reading : read (joined parts) = readFrom 1 parts := by rw [read, chunks_joined chunking]
  have lines : ∀ m, read (joined parts) = .error m → m.line ≤ 1 + newlines (joined parts) :=
    fun m => line_le_of_read
  simp only [reading] at lines ⊢
  refine ⟨⟨?_, ?_⟩, fun m => ⟨?_, ?_⟩, lines, fun rs => readFrom_eq_ok_ofChunk_iff, ?_⟩
  · rintro ⟨m, refused⟩
    obtain ⟨before, part, after, cut, -, bare, -⟩ := readFrom_eq_error_iff.mp refused
    exact ⟨part, by simp [cut], bare⟩
  · intro found
    obtain ⟨before, part, after, cut, earlier, bare⟩ := exists_first_bare found
    exact ⟨_, readFrom_eq_error_iff.mpr ⟨before, part, after, cut, earlier, bare, rfl⟩⟩
  · intro refused
    obtain ⟨before, part, after, rfl, earlier, bare, rfl⟩ := readFrom_eq_error_iff.mp refused
    exact ⟨before, part, after, rfl, joined_append (List.cons_ne_nil part after), earlier, bare,
      rfl, rfl⟩
  · rintro ⟨before, part, after, cut, -, earlier, bare, line, detail⟩
    refine readFrom_eq_error_iff.mpr ⟨before, part, after, cut, earlier, bare, ?_⟩
    have fields : m = ⟨m.line, m.detail⟩ := rfl
    rw [fields, line, detail]
    rfl
  · intro rs success
    rw [(readFrom_eq_ok_ofChunk_iff.mp success).2, sources_map_ofChunk]

/-- Four newlines make an empty chunk, which counts as two lines. Of the two bare chunks behind it
the first one is the fault. -/
theorem read_by_chunks_two_bare :
    let parts : List Bytes := [[0x61, 0x0A, 0x62], [], [0x63], [0x64]]
    Chunking parts ∧ read (joined parts) = .error ⟨6, "record for 'c' has no command line"⟩ := by
  intro parts
  have chunking : Chunking parts := chunking_chunks (joined parts)
  refine ⟨chunking, (((read_by_chunks (joined parts)).2 parts chunking rfl).2.1 _).mpr ?_⟩
  exact ⟨[[0x61, 0x0A, 0x62], []], [0x63], [[0x64]], rfl, rfl, by decide, by decide, rfl, rfl⟩

end Log

end Intercept
