import Intercept.Proofs.Log.Reading

/-!
# A log that something is appended to

Nothing that is appended to a log reaches a chunk in front of the last one, and of the last one it
reaches what stands behind the first line. So the sources that the log names stay where they are, if
the longer log can be read at all. There is one exception: a last chunk of nothing but a newline
names the empty source, and a second newline makes a blank line of it.

Results:
1. `chunks_concat_append`: the chunks in front of the last one stay.
2. `exists_first_chunk`: so does the first line of the last one.
3. `dropLast_prefix_of_read`: all records but the last one stay.
4. `sources_prefix_of_read`: so do the sources, that of the last one included.
-/

namespace Intercept

theorem Record.sources_append (rs others : List Record) :
    sources (rs ++ others) = sources rs ++ sources others :=
  List.filterMap_append

namespace Log

/-- What is appended to a log is read with its last chunk. -/
theorem chunks_concat_append {front last : Bytes} {before : List Bytes}
    (cut : chunks front = before ++ [last]) (rest : Bytes) :
    chunks (front ++ rest) = before ++ chunks (last ++ rest) := by
  have closed : ∀ chunk ∈ before, Closed chunk :=
    ((chunking_append (List.cons_ne_nil last [])).mp (cut ▸ chunking_chunks front)).1
  have whole : front = ended before ++ last := by
    rw [← joined_chunks front, cut, joined_append (List.cons_ne_nil last []), joined]
  rw [whole, List.append_assoc, chunks_ended_append closed]

/-- Whatever is appended, all records but the last one stay as they are. -/
theorem dropLast_prefix_of_read {front rest : Bytes} {rs others : List Record}
    (success : read front = .ok rs) (longer : read (front ++ rest) = .ok others) :
    rs.dropLast <+: others := by
  obtain ⟨-, rfl⟩ := read_eq_ok_iff.mp success
  obtain ⟨-, rfl⟩ := read_eq_ok_iff.mp longer
  obtain ⟨before, last, cut⟩ :=
    (List.eq_nil_or_concat' (chunks front)).resolve_left (chunks_ne_nil front)
  have stays : (before.filterMap record?) <+:
      (chunks (front ++ rest)).filterMap record? := by
    rw [chunks_concat_append cut rest, List.filterMap_append]
    exact List.prefix_append _ _
  refine List.IsPrefix.trans ?_ stays
  rw [cut, List.filterMap_append]
  cases found : record? last with
  | none =>
      rw [List.filterMap_cons_none found, List.filterMap_nil, List.append_nil]
      exact List.dropLast_prefix _
  | some r => rw [List.filterMap_cons_some found, List.filterMap_nil, List.dropLast_concat]

/-- The first chunk begins with the first line and its newline, unless a blank line follows at
once. -/
theorem exists_first_chunk {line rest : Bytes} (absent : Bytes.newline ∉ line)
    (unpaired : ¬ [Bytes.newline] <+: rest) :
    ∃ more others, chunks (line ++ Bytes.newline :: rest) =
      (line ++ Bytes.newline :: more) :: others := by
  induction line with
  | nil =>
      cases rest with
      | nil => exact ⟨[], [], rfl⟩
      | cons c rest =>
          have other : ¬ (Bytes.newline = Bytes.newline ∧ c = Bytes.newline) :=
            fun pair => unpaired ⟨rest, by rw [pair.2]; rfl⟩
          obtain ⟨first, others, cut⟩ := List.exists_cons_of_ne_nil (chunks_ne_nil (c :: rest))
          exact ⟨first, others, chunks_cons_cons other cut⟩
  | cons b line ih =>
      have differs : b ≠ Bytes.newline := (List.ne_of_not_mem_cons absent).symm
      obtain ⟨more, others, cut⟩ := ih (List.not_mem_of_not_mem_cons absent)
      refine ⟨more, others, ?_⟩
      obtain ⟨c, following, shape⟩ := List.exists_cons_of_ne_nil
        (List.append_ne_nil_of_right_ne_nil line (List.cons_ne_nil Bytes.newline rest))
      rw [shape] at cut
      rw [List.cons_append, shape, chunks_cons_cons (fun pair => differs pair.1) cut,
        List.cons_append]

/-- The source that a chunk names is the one of its first line. -/
theorem sources_cons {line : Bytes} (absent : Bytes.newline ∉ line) (rest : Bytes)
    (others : List Bytes) :
    Record.sources (((line ++ Bytes.newline :: rest) :: others).filterMap record?) =
      (Record.sourceOfLine line).toList ++ Record.sources (others.filterMap record?) := by
  obtain ⟨command, more, cut⟩ :=
    List.exists_cons_of_ne_nil (Bytes.splitAt_ne_nil Bytes.newline rest)
  rw [List.filterMap_cons_some (record?_append_cons absent cut), Record.sources]
  cases Record.sourceOfLine line <;> rfl

/-- The source of a chunk is that of the first chunk of anything it is extended to. -/
theorem sources_prefix_chunks {last rest : Bytes} (whole : ¬ HasBlank last)
    (lines : last ≠ [] → Bytes.newline ∈ last)
    (longer : ∀ chunk ∈ chunks (last ++ rest), chunk ≠ [] → Bytes.newline ∈ chunk)
    (unpaired : last = [Bytes.newline] → ¬ [Bytes.newline] <+: rest) :
    Record.sources ([last].filterMap record?) <+:
      Record.sources ((chunks (last ++ rest)).filterMap record?) := by
  by_cases empty : last = []
  · subst empty
    exact List.nil_prefix
  obtain ⟨line, back, rfl, absent⟩ := List.eq_append_cons_of_mem (lines empty)
  have follows : ¬ [Bytes.newline] <+: back ++ rest := by
    intro pair
    cases back with
    | cons b back =>
        obtain ⟨rfl, -⟩ := List.cons_prefix_cons.mp pair
        exact whole ⟨line, back, by simp⟩
    | nil =>
        -- The blank line cuts the first line off, which is a record only if it is empty.
        obtain ⟨tail, rfl⟩ := pair
        have cut : chunks ((line ++ [Bytes.newline]) ++ ([Bytes.newline] ++ tail)) =
            line :: chunks tail := by
          rw [List.append_assoc]
          exact chunks_append_blank (closed_of_not_mem absent) tail
        have nothing : line = [] := by
          by_contra more
          exact absent (longer line (by rw [cut]; exact List.mem_cons_self) more)
        exact unpaired (by rw [nothing]; rfl) (List.prefix_append _ tail)
  obtain ⟨more, others, cut⟩ := exists_first_chunk absent follows
  rw [List.append_assoc, List.cons_append, cut, sources_cons absent, sources_cons absent]
  exact (List.prefix_append_right_inj _).mpr List.nil_prefix

/-- The sources of a log stay where they are, whatever is appended. -/
theorem sources_prefix_of_read {front rest : Bytes} {rs others : List Record}
    (success : read front = .ok rs) (longer : read (front ++ rest) = .ok others)
    (unpaired : (chunks front).getLast? = some [Bytes.newline] → ¬ [Bytes.newline] <+: rest) :
    Record.sources rs <+: Record.sources others := by
  obtain ⟨lines, rfl⟩ := read_eq_ok_iff.mp success
  obtain ⟨longerLines, rfl⟩ := read_eq_ok_iff.mp longer
  obtain ⟨before, last, cut⟩ :=
    (List.eq_nil_or_concat' (chunks front)).resolve_left (chunks_ne_nil front)
  have member : last ∈ chunks front := by rw [cut]; exact List.mem_concat_self
  have extended := chunks_concat_append cut rest
  have tail : Record.sources ([last].filterMap record?) <+:
      Record.sources ((chunks (last ++ rest)).filterMap record?) := by
    refine sources_prefix_chunks ((chunking_chunks front).not_blank last member)
      (lines last member) (fun chunk inTail => longerLines chunk ?_) ?_
    · rw [extended]
      exact List.mem_append_right before inTail
    · intro lone
      exact unpaired (by rw [cut, lone, List.getLast?_concat])
  rw [extended, cut, List.filterMap_append, List.filterMap_append, Record.sources_append,
    Record.sources_append]
  exact (List.prefix_append_right_inj _).mpr tail

end Log

end Intercept
