import Intercept.Proofs.Log.Truncation

/-!
# What a log can be read as

Whatever the bytes are, the records that are read from them are written in lines, and all but the
last have a command. This module says that nothing else is known of them, and what becomes of them
when they are written again: a log may end behind a source line, and then its last record has no
command; written with its blank line, it is no record any more.

Results:
1. `exists_read_eq_ok_iff`: the lists of records that are read from some log.
2. `read_rewritten`: a list that was read is read again from the log that is written from it, unless
   it ends behind a source line.
3. `read_rewritten_of_endsInSource`: where it does, that log is refused on the line of that source.
4. `read_image`: all of this together.
-/

namespace Intercept

/-! ## Definitions -/

/-- Records that a log can be read as. -/
structure Record.Legible (rs : List Record) : Prop where
  readable : ∀ r ∈ rs, r.Readable
  command_ne_nil : ∀ r ∈ rs.dropLast, r.command ≠ []

/-- The last record has a source line, which is not an empty one, and nothing behind it. -/
def Record.EndsInSource (rs : List Record) : Prop :=
  ∃ last ∈ rs.getLast?, last.command = [] ∧ last ≠ ⟨some [], []⟩

namespace Record

/-- Of legible records all but the last are complete. -/
theorem Legible.complete {init : List Record} {last : Record} (h : Legible (init ++ [last])) :
    (∀ r ∈ init, r.Complete) ∧ last.Readable := by
  have commands := h.command_ne_nil
  rw [List.dropLast_concat] at commands
  exact ⟨fun r member => ⟨h.readable r (List.mem_append_left _ member), commands r member⟩,
    h.readable last (List.mem_append_right _ List.mem_cons_self)⟩

theorem endsInSource_concat {init : List Record} {last : Record} :
    EndsInSource (init ++ [last]) ↔ last.command = [] ∧ last ≠ ⟨some [], []⟩ := by
  simp [EndsInSource]

end Record

namespace Log

/-! ## Which records are read from a log -/

/-- A last record is read from its body, whether or not it has a command. -/
theorem read_allToBytes_append_body {init : List Record} {last : Record}
    (complete : ∀ r ∈ init, r.Complete) (h : last.Readable) :
    read (Record.allToBytes init ++ last.body) = .ok (init ++ [last]) := by
  have alone : read last.body = .ok [last] :=
    read_eq_singleton (Record.not_hasBlank_body h) (Record.record?_body h)
  rw [read_allToBytes_append complete, alone]
  rfl

theorem exists_read_eq_ok_iff {rs : List Record} :
    (∃ bytes, read bytes = .ok rs) ↔ Record.Legible rs := by
  constructor
  · rintro ⟨bytes, success⟩
    exact ⟨readable_of_read success, command_ne_nil_of_read success⟩
  · intro legible
    rcases List.eq_nil_or_concat' rs with rfl | ⟨init, last, rfl⟩
    · exact ⟨[], rfl⟩
    · exact ⟨_, read_allToBytes_append_body legible.complete.1 legible.complete.2⟩

/-! ## Writing again what was read -/

theorem read_rewritten {rs : List Record} (legible : Record.Legible rs)
    (whole : ¬ Record.EndsInSource rs) : read (Record.allToBytes rs) = .ok rs := by
  rcases List.eq_nil_or_concat' rs with rfl | ⟨init, last, rfl⟩
  · rfl
  · obtain ⟨complete, readable⟩ := legible.complete
    have ended : last.command ≠ [] ∨ last = ⟨some [], []⟩ := by
      rw [Record.endsInSource_concat] at whole
      exact or_iff_not_imp_left.mpr fun empty => not_not.mp fun named =>
        whole ⟨not_not.mp empty, named⟩
    exact (read_allToBytes_concat_iff complete).mpr (read_toBytes_eq_ok_iff.mpr ⟨readable, ended⟩)

/-- The records in front take up three lines each, and the source line is the next one. -/
theorem read_rewritten_of_endsInSource {init : List Record} {last : Record}
    (legible : Record.Legible (init ++ [last])) (ends : Record.EndsInSource (init ++ [last])) :
    read (Record.allToBytes (init ++ [last])) =
      .error (noCommand (3 * init.length + 1) last.sourceLine) := by
  obtain ⟨complete, readable⟩ := legible.complete
  obtain ⟨empty, named⟩ := Record.endsInSource_concat.mp ends
  have source : last.source ≠ some [] := by
    intro nameless
    exact named (by rw [← nameless, ← empty])
  rw [Record.allToBytes_append, Record.allToBytes_singleton, read_allToBytes_append complete,
    read_toBytes_of_command_nil readable empty source, Nat.add_comm]
  rfl

/-- The image of reading, and writing what was read. A list of records is read from some log exactly
if its fields are lines, no source is the word for none, and every record but the last has a command.
Written again it is read as itself, unless its last record has no command and is not empty in both
fields: then the new log is refused, on the line on which that record begins, and its source line is
quoted. -/
theorem read_image (rs : List Record) :
    ((∃ bytes, read bytes = .ok rs) ↔
      (∀ r ∈ rs, (∀ source ∈ r.source, Bytes.newline ∉ source) ∧ Bytes.newline ∉ r.command) ∧
      (∀ r ∈ rs, r.source ≠ some Record.absent) ∧
      (∀ r ∈ rs.dropLast, r.command ≠ [])) ∧
    ∀ bytes, read bytes = .ok rs →
      (read (Record.allToBytes rs) = .ok rs ↔
        ¬ ∃ last ∈ rs.getLast?, last.command = [] ∧ last ≠ ⟨some [], []⟩) ∧
      ∀ last ∈ rs.getLast?, last.command = [] → last ≠ ⟨some [], []⟩ →
        ∃ m, read (Record.allToBytes rs) = .error m ∧ m.line = 3 * (rs.length - 1) + 1 ∧
          m.detail = "record for '" ++ Utf8.text last.sourceLine ++ "' has no command line" := by
  refine ⟨exists_read_eq_ok_iff.trans ⟨?_, ?_⟩, ?_⟩
  · rintro ⟨readable, commands⟩
    exact ⟨fun r member => ⟨(readable r member).source_line, (readable r member).command_line⟩,
      fun r member => (readable r member).source_ne_absent, commands⟩
  · rintro ⟨lines, distinct, commands⟩
    exact ⟨fun r member => ⟨(lines r member).1, (lines r member).2, distinct r member⟩, commands⟩
  · intro bytes success
    have legible : Record.Legible rs := exists_read_eq_ok_iff.mp ⟨bytes, success⟩
    have refused : ∀ last ∈ rs.getLast?, last.command = [] → last ≠ ⟨some [], []⟩ →
        read (Record.allToBytes rs) =
          .error (noCommand (3 * (rs.length - 1) + 1) last.sourceLine) := by
      intro last atEnd empty named
      obtain ⟨init, rfl⟩ := List.getLast?_eq_some_iff.mp (Option.mem_def.mp atEnd)
      rw [read_rewritten_of_endsInSource legible (Record.endsInSource_concat.mpr ⟨empty, named⟩),
        List.length_append, List.length_singleton, Nat.add_sub_cancel]
    refine ⟨⟨?_, read_rewritten legible⟩, fun last atEnd empty named =>
      ⟨_, refused last atEnd empty named, rfl, rfl⟩⟩
    rintro again ⟨last, atEnd, empty, named⟩
    rw [refused last atEnd empty named] at again
    exact nomatch again

/-- A log of one record that ends behind the source line of another is read as two records, which
are refused on line four when they are written. -/
theorem read_image_cut_log :
    let front : Bytes := [0x61, 0x0A, 0x62, 0x0A, 0x0A, 0x63, 0x0A]
    let rs : List Record := [⟨some [0x61], [0x62]⟩, ⟨some [0x63], []⟩]
    read front = .ok rs ∧ ∃ m, read (Record.allToBytes rs) = .error m ∧ m.line = 4 ∧
      m.detail = "record for 'c' has no command line" := by
  intro front rs
  have success : read front = .ok rs := rfl
  obtain ⟨m, refused, line, detail⟩ :=
    ((read_image rs).2 front success).2 ⟨some [0x63], []⟩ rfl rfl (by decide)
  exact ⟨success, m, refused, line, detail.trans (by decide)⟩

end Log

end Intercept
