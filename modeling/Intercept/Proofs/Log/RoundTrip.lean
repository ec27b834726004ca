import Intercept.Proofs.Log.Reading

/-!
# Which records a log keeps

A record is written as its body, the source line and the command line, and a blank line. This module
says for which lists of records reading the written log gives back the list.

Results:
1. `read_allToBytes_append`: complete records in front of any bytes are read first.
2. `read_toBytes_eq_ok_iff`: a single record.
3. `read_allToBytes_eq_ok_iff`: any list of records. The one record without a command that is ever
   read back is the last one, with an empty source.
-/

namespace Intercept

/-! ## Definitions -/

/-- The record as it is written, without the blank line. -/
def Record.body (r : Record) : Bytes := r.sourceLine ++ Bytes.newline :: r.command

/-- A record that is read back wherever it stands in a log. -/
structure Record.Complete (r : Record) : Prop extends r.Readable where
  command_ne_nil : r.command ≠ []

instance (r : Record) : Decidable r.Complete :=
  decidable_of_iff (r.Readable ∧ r.command ≠ [])
    ⟨fun ⟨readable, nonempty⟩ => ⟨readable, nonempty⟩,
      fun ⟨readable, nonempty⟩ => ⟨readable, nonempty⟩⟩

namespace Record

/-! ## The body of a record -/

theorem toBytes_eq (r : Record) : r.toBytes = r.body ++ [Bytes.newline, Bytes.newline] := by
  simp [toBytes, body]

theorem allToBytes_append (first second : List Record) :
    allToBytes (first ++ second) = allToBytes first ++ allToBytes second :=
  List.flatMap_append

theorem allToBytes_singleton (r : Record) : allToBytes [r] = r.toBytes :=
  List.flatMap_singleton toBytes r

theorem allToBytes_eq_ended (rs : List Record) : allToBytes rs = Log.ended (rs.map body) := by
  unfold allToBytes Log.ended
  rw [List.flatMap_map]
  exact congrArg (fun bytes => rs.flatMap bytes) (funext toBytes_eq)

theorem newlines_body {r : Record} (h : r.Readable) : Log.newlines r.body = 1 := by
  have source : r.sourceLine.count Bytes.newline = 0 :=
    List.count_eq_zero.mpr h.newline_not_mem_sourceLine
  have command : r.command.count Bytes.newline = 0 := List.count_eq_zero.mpr h.command_line
  rw [Log.newlines, body, List.count_append, List.count_cons_self, source, command]

/-- The word for no source is not empty, so an empty source line is that of an empty name. -/
theorem sourceLine_eq_nil_iff {r : Record} : r.sourceLine = [] ↔ r.source = some [] := by
  have word : absent ≠ [] := by decide
  unfold sourceLine
  cases r.source <;> simp [word]

/-- One newline makes no blank line. -/
theorem not_hasBlank_body {r : Record} (h : r.Readable) : ¬ Log.HasBlank r.body := by
  intro blank
  have two : [Bytes.newline, Bytes.newline].count Bytes.newline ≤ r.body.count Bytes.newline :=
    blank.sublist.count_le Bytes.newline
  have one : r.body.count Bytes.newline = 1 := newlines_body h
  rw [one] at two
  exact absurd two (by decide)

/-- Another chunk may follow the body of a complete record. -/
theorem closed_body {r : Record} (h : r.Complete) : Log.Closed r.body where
  not_blank := not_hasBlank_body h.toReadable
  not_open := by
    have shape : r.body = r.sourceLine ++ [Bytes.newline] ++ r.command := by simp [body]
    rw [shape]
    exact Log.not_open_append _ h.command_ne_nil h.command_line

/-- The body of a record holds the record. -/
theorem record?_body {r : Record} (h : r.Readable) : Log.record? r.body = some r := by
  have lines : Bytes.splitAt Bytes.newline r.command = [r.command] :=
    Bytes.splitAt_eq_singleton h.command_line
  rw [body, Log.record?_append_cons h.newline_not_mem_sourceLine lines,
    sourceOfLine_sourceLine h.source_ne_absent]

theorem newlines_allToBytes {rs : List Record} (complete : ∀ r ∈ rs, r.Complete) :
    Log.newlines (allToBytes rs) = 3 * rs.length := by
  rw [allToBytes_eq_ended, Log.newlines_ended]
  induction rs with
  | nil => rfl
  | cons r rest ih =>
      have completeRest : ∀ r ∈ rest, r.Complete :=
        fun r member => complete r (List.mem_cons_of_mem _ member)
      have one : Log.newlines r.body = 1 := newlines_body (complete r List.mem_cons_self).toReadable
      rw [List.map_cons, Log.height, ih completeRest, one, List.length_cons]
      omega

end Record

namespace Log

/-! ## Reading what was written -/

theorem atBoundary_allToBytes {rs : List Record} (complete : ∀ r ∈ rs, r.Complete) :
    AtBoundary (Record.allToBytes rs) := by
  rcases List.eq_nil_or_concat' rs with rfl | ⟨init, last, rfl⟩
  · exact Or.inl rfl
  · have h : last.Complete := complete last (by simp)
    rw [Record.allToBytes_append, Record.allToBytes_singleton]
    exact atBoundary_append_toBytes _ h.command_ne_nil h.command_line

/-- Complete records are read back. -/
theorem read_allToBytes {rs : List Record} (complete : ∀ r ∈ rs, r.Complete) :
    read (Record.allToBytes rs) = .ok rs := by
  have closed : ∀ chunk ∈ rs.map Record.body, Closed chunk := by
    intro chunk member
    obtain ⟨r, inRecords, rfl⟩ := List.mem_map.mp member
    exact Record.closed_body (complete r inRecords)
  -- Every body is a chunk, and the last blank line leaves an empty one.
  have cut : chunks (Record.allToBytes rs) = rs.map Record.body ++ [[]] := by
    have ends := chunks_ended_append closed []
    rwa [List.append_nil, ← Record.allToBytes_eq_ended] at ends
  rw [read_eq_ok_iff, cut]
  constructor
  · intro chunk member nonempty
    rcases List.mem_append.mp member with body | last
    · obtain ⟨r, -, rfl⟩ := List.mem_map.mp body
      simp [Record.body]
    · exact absurd (List.mem_singleton.mp last) nonempty
  · have each : ∀ r ∈ rs, (record? ∘ Record.body) r = some r :=
      fun r member => Record.record?_body (complete r member).toReadable
    rw [List.filterMap_append, List.filterMap_map, List.filterMap_cons_none record?_nil,
      List.filterMap_nil, List.append_nil, List.filterMap_congr each, List.filterMap_some]

/-- Complete records in front of any bytes are read first, and what stands behind them is read as
if the log began there. -/
theorem read_allToBytes_append {rs : List Record} (complete : ∀ r ∈ rs, r.Complete)
    (back : Bytes) :
    read (Record.allToBytes rs ++ back) =
      (rs ++ ·) <$> (read back).mapError (Malformed.below (3 * rs.length)) := by
  rw [read_append_eq (atBoundary_allToBytes complete), read_allToBytes complete,
    Record.newlines_allToBytes complete]
  rfl

/-- Without a command the source line is a chunk of its own, and one without a command line unless
it is empty. -/
theorem read_toBytes_of_command_nil {r : Record} (h : r.Readable) (empty : r.command = [])
    (named : r.source ≠ some []) : read r.toBytes = .error (noCommand 1 r.sourceLine) := by
  have written : r.toBytes =
      r.sourceLine ++ Bytes.newline :: Bytes.newline :: [Bytes.newline] := by
    rw [Record.toBytes, empty]
    simp
  have nonempty : r.sourceLine ≠ [] := fun nothing => named (Record.sourceLine_eq_nil_iff.mp nothing)
  rw [written, read, chunks_append_blank (closed_of_not_mem h.newline_not_mem_sourceLine)]
  exact readFrom_cons_of_not_mem nonempty h.newline_not_mem_sourceLine 1 _

/-- A record is read back from its own bytes if it is complete, or if both of its fields are
empty: then the three newlines are a blank line and the chunk of two empty lines. -/
theorem read_toBytes_eq_ok_iff {r : Record} :
    read r.toBytes = .ok [r] ↔ r.Readable ∧ (r.command ≠ [] ∨ r = ⟨some [], []⟩) := by
  constructor
  · intro success
    have readable : r.Readable := readable_of_read success r List.mem_cons_self
    refine ⟨readable, or_iff_not_imp_left.mpr fun nonempty => ?_⟩
    have empty : r.command = [] := not_not.mp nonempty
    have nameless : r.source = some [] := by
      by_contra named
      rw [read_toBytes_of_command_nil readable empty named] at success
      exact nomatch success
    rw [← nameless, ← empty]
  · rintro ⟨readable, nonempty | rfl⟩
    · have alone : ∀ other ∈ [r], other.Complete := by
        intro other member
        rw [List.mem_singleton.mp member]
        exact ⟨readable, nonempty⟩
      have success := read_allToBytes alone
      rwa [Record.allToBytes_singleton] at success
    · rfl

/-- Behind complete records a last one is read back if it is read back alone. -/
theorem read_allToBytes_concat_iff {init : List Record} {last : Record}
    (complete : ∀ r ∈ init, r.Complete) :
    read (Record.allToBytes (init ++ [last])) = .ok (init ++ [last]) ↔
      read last.toBytes = .ok [last] := by
  rw [Record.allToBytes_append, Record.allToBytes_singleton, read_allToBytes_append complete]
  cases read last.toBytes with
  | error m => exact ⟨nofun, nofun⟩
  | ok rs =>
      constructor
      · intro success
        have records : init ++ rs = init ++ [last] := Except.ok.inj success
        rw [List.append_cancel_left records]
      · intro success
        have records : rs = [last] := Except.ok.inj success
        rw [records]
        rfl

/-- The exact domain of the round trip: a written log is read back as the records that it was
written from if no field holds a newline, no source is the word for none, and every record has a
command, except that the last one may be empty in both fields. -/
theorem read_allToBytes_eq_ok_iff (rs : List Record) :
    read (Record.allToBytes rs) = .ok rs ↔
      (∀ r ∈ rs, (∀ source ∈ r.source, Bytes.newline ∉ source) ∧ Bytes.newline ∉ r.command) ∧
      (∀ r ∈ rs, r.source ≠ some Record.absent) ∧
      (∀ r ∈ rs.dropLast, r.command ≠ []) ∧
      (∀ r ∈ rs.getLast?, r.command ≠ [] ∨ r = ⟨some [], []⟩) := by
  rcases List.eq_nil_or_concat' rs with rfl | ⟨init, last, rfl⟩
  · simp [Record.allToBytes, read, chunks, readFrom]
  rw [List.dropLast_concat, List.getLast?_concat]
  constructor
  · intro success
    have readable := readable_of_read success
    have commands := command_ne_nil_of_read success
    rw [List.dropLast_concat] at commands
    have complete : ∀ r ∈ init, r.Complete :=
      fun r member => ⟨readable r (List.mem_append_left _ member), commands r member⟩
    have alone := (read_allToBytes_concat_iff complete).mp success
    refine ⟨fun r member => ?_, fun r member => ?_, commands, fun r equal => ?_⟩
    · exact ⟨(readable r member).source_line, (readable r member).command_line⟩
    · exact (readable r member).source_ne_absent
    · rw [← Option.mem_some.mp equal]
      exact (read_toBytes_eq_ok_iff.mp alone).2
  · rintro ⟨lines, distinct, commands, atEnd⟩
    have readable : ∀ r ∈ init ++ [last], r.Readable :=
      fun r member => ⟨(lines r member).1, (lines r member).2, distinct r member⟩
    have complete : ∀ r ∈ init, r.Complete :=
      fun r member => ⟨readable r (List.mem_append_left _ member), commands r member⟩
    have alone : read last.toBytes = .ok [last] :=
      read_toBytes_eq_ok_iff.mpr ⟨readable last (by simp), atEnd last rfl⟩
    exact (read_allToBytes_concat_iff complete).mpr alone

-- An empty source and no command: the record is read back at the end of a log and only there.
example : read (Record.allToBytes [⟨none, [0x61]⟩, ⟨some [], []⟩]) =
    .ok [⟨none, [0x61]⟩, ⟨some [], []⟩] := rfl

example : read (Record.allToBytes [⟨some [], []⟩, ⟨none, [0x61]⟩]) =
    .ok [⟨some [], Record.absent⟩] := rfl

end Log

end Intercept
