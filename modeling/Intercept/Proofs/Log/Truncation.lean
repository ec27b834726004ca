import Intercept.Proofs.Log.RoundTrip
import Mathlib.Data.Nat.Find
import Mathlib.Order.Bounds.Basic

/-!
# A log that was cut off

A log may end anywhere: in the middle of a source, behind a source line, in the middle of a command,
between the two newlines at the end of a record. This module says what is read of the first bytes of
a written log, whatever their number.

Results:
1. `toBytes_cut`: where the last record can be cut.
2. `remainder_cut`: what is left behind the whole records is less than the next record.
3. `read_truncated`: the whole records are read, and what is left is read as a record whose command
   may have lost its end, or is refused on its own line.
-/

namespace Intercept.Log

/-! ## Definitions -/

/-- The number of records that are whole in the first bytes of their log: the largest number of
records from the first on whose rendering has not been cut. -/
def wholeCount (rs : List Record) (front : Bytes) : Nat :=
  Nat.findGreatest (fun count => Record.allToBytes (rs.take count) <+: front) rs.length

/-- What is left behind the whole records. -/
def remainder (rs : List Record) (front : Bytes) : Bytes :=
  front.drop (Record.allToBytes (rs.take (wholeCount rs front))).length

/-! ## Where a record can be cut -/

/-- A record is cut in its source line, in its command, or between the newlines at its end. -/
theorem toBytes_cut {r : Record} {front : Bytes} (cut : front <+: r.toBytes)
    (short : front ≠ r.toBytes) :
    front <+: r.sourceLine ∨
      (∃ command, command <+: r.command ∧ front = r.sourceLine ++ Bytes.newline :: command) ∨
      front = r.body ++ [Bytes.newline] := by
  have written : r.toBytes = (r.body ++ [Bytes.newline]) ++ [Bytes.newline] := by
    rw [Record.toBytes_eq, List.append_assoc]
    rfl
  rw [written] at cut short
  have first : front <+: r.body ++ [Bytes.newline] :=
    (List.prefix_concat_iff.mp cut).resolve_left short
  rcases List.prefix_concat_iff.mp first with atEnd | inBody
  · exact Or.inr (Or.inr atEnd)
  rcases List.prefix_or_prefix_of_prefix inBody (List.prefix_append _ _) with inSource | ⟨more, rfl⟩
  · exact Or.inl inSource
  have behind : more <+: Bytes.newline :: r.command :=
    (List.prefix_append_right_inj r.sourceLine).mp inBody
  rcases List.prefix_cons_iff.mp behind with rfl | ⟨command, rfl, inCommand⟩
  · exact Or.inl (by simp)
  · exact Or.inr (Or.inl ⟨command, inCommand, rfl⟩)

/-! ## What is left behind the whole records -/

theorem wholeCount_le (rs : List Record) (front : Bytes) : wholeCount rs front ≤ rs.length :=
  Nat.findGreatest_le rs.length

theorem le_wholeCount {rs : List Record} {front : Bytes} {count : Nat} (inside : count ≤ rs.length)
    (whole : Record.allToBytes (rs.take count) <+: front) : count ≤ wholeCount rs front :=
  Nat.le_findGreatest inside whole

theorem whole_append_remainder (rs : List Record) (front : Bytes) :
    Record.allToBytes (rs.take (wholeCount rs front)) ++ remainder rs front = front := by
  have nothing : Record.allToBytes (rs.take 0) <+: front := List.nil_prefix
  have whole : Record.allToBytes (rs.take (wholeCount rs front)) <+: front :=
    Nat.findGreatest_spec (P := fun count => Record.allToBytes (rs.take count) <+: front)
      (Nat.zero_le _) nothing
  exact List.prefix_iff_eq_append.mp whole

/-- What is left is nothing, or it is less than the record that follows the whole ones. -/
theorem remainder_cut {rs : List Record} {front : Bytes} (cut : front <+: Record.allToBytes rs) :
    remainder rs front = [] ∨
      ∃ r, rs[wholeCount rs front]? = some r ∧ remainder rs front <+: r.toBytes ∧
        remainder rs front ≠ r.toBytes := by
  have parts : Record.allToBytes (rs.take (wholeCount rs front)) ++
      Record.allToBytes (rs.drop (wholeCount rs front)) = Record.allToBytes rs := by
    rw [← Record.allToBytes_append, List.take_append_drop]
  have left : remainder rs front <+: Record.allToBytes (rs.drop (wholeCount rs front)) := by
    rw [← List.prefix_append_right_inj, whole_append_remainder, parts]
    exact cut
  cases follows : rs[wholeCount rs front]? with
  | none =>
      have all : rs.length ≤ wholeCount rs front := List.getElem?_eq_none_iff.mp follows
      rw [List.drop_eq_nil_of_le all] at left
      exact Or.inl (List.prefix_nil.mp left)
  | some r =>
      obtain ⟨inside, rfl⟩ := List.getElem?_eq_some_iff.mp follows
      -- If the next record were whole, one more record would be.
      have short : ¬ rs[wholeCount rs front].toBytes <+: remainder rs front := by
        rintro ⟨more, whole⟩
        have another : Record.allToBytes (rs.take (wholeCount rs front + 1)) <+: front := by
          rw [List.take_add_one, follows, Option.toList_some, Record.allToBytes_append,
            Record.allToBytes_singleton]
          refine ⟨more, ?_⟩
          rw [List.append_assoc, whole, whole_append_remainder]
        have more := le_wholeCount inside another
        omega
      rw [List.drop_eq_getElem_cons inside, Record.allToBytes, List.flatMap_cons] at left
      refine Or.inr ⟨_, rfl, ?_, fun whole => short (whole ▸ List.prefix_refl _)⟩
      exact (List.prefix_or_prefix_of_prefix left (List.prefix_append _ _)).resolve_right short

/-! ## What is read of what is left -/

/-- A log without a blank line is read as the record that it holds. -/
theorem read_eq_singleton {chunk : Bytes} {r : Record} (whole : ¬ HasBlank chunk)
    (found : record? chunk = some r) : read chunk = .ok [r] := by
  rw [read, chunks_eq_singleton whole, readFrom_cons_of_record? found]
  rfl

/-- A source line of which nothing but a part was written is refused. -/
theorem read_eq_error {bytes : Bytes} (nonempty : bytes ≠ []) (absent : Bytes.newline ∉ bytes) :
    read bytes = .error (noCommand 1 bytes) := by
  rw [read, chunks_eq_singleton (closed_of_not_mem absent).not_blank]
  exact readFrom_cons_of_not_mem nonempty absent 1 []

/-- The command is read as far as it goes. -/
theorem read_cut_command {r : Record} (h : r.Readable) {command : Bytes}
    (cut : command <+: r.command) :
    read (r.sourceLine ++ Bytes.newline :: command) = .ok [⟨r.source, command⟩] := by
  have readable : Record.Readable ⟨r.source, command⟩ :=
    ⟨h.source_line, fun inCommand => h.command_line (cut.subset inCommand), h.source_ne_absent⟩
  exact read_eq_singleton (Record.not_hasBlank_body readable) (Record.record?_body readable)

/-- Half a blank line is not missed. -/
theorem read_body_append_newline {r : Record} (h : r.Complete) :
    read (r.body ++ [Bytes.newline]) = .ok [r] := by
  have lines : Bytes.splitAt Bytes.newline (r.command ++ [Bytes.newline]) = r.command :: [[]] := by
    rw [Bytes.splitAt_append_cons h.command_line]
    rfl
  have found : record? (r.body ++ [Bytes.newline]) = some r := by
    rw [Record.body, List.append_assoc, List.cons_append,
      record?_append_cons h.newline_not_mem_sourceLine lines,
      Record.sourceOfLine_sourceLine h.source_ne_absent]
  exact read_eq_singleton (not_hasBlank_append_newline (Record.closed_body h)) found

/-- Of a record that was cut off behind its source line, the command is read as far as it goes. It
is all of the command where a newline follows it. -/
theorem read_cut_record {r : Record} (h : r.Complete) {left : Bytes} (cut : left <+: r.toBytes)
    (short : left ≠ r.toBytes) (member : Bytes.newline ∈ left) :
    ∃ command, command <+: r.command ∧ Bytes.newline ∉ command ∧
      (left = r.sourceLine ++ Bytes.newline :: command ∨
        left = r.sourceLine ++ Bytes.newline :: command ++ [Bytes.newline] ∧
          command = r.command) ∧
      read left = .ok [⟨r.source, command⟩] := by
  rcases toBytes_cut cut short with inSource | ⟨command, inCommand, rfl⟩ | rfl
  · exact absurd (inSource.subset member) h.newline_not_mem_sourceLine
  · have line : Bytes.newline ∉ command := fun inside => h.command_line (inCommand.subset inside)
    exact ⟨command, inCommand, line, Or.inl rfl, read_cut_command h.toReadable inCommand⟩
  · exact ⟨r.command, List.prefix_refl _, h.command_line, Or.inr ⟨rfl, rfl⟩,
      read_body_append_newline h⟩

/-- The whole records are read first, and what is left is read as if the log began there. -/
theorem read_truncated_eq {rs : List Record} (complete : ∀ r ∈ rs, r.Complete) (front : Bytes) :
    read front =
      (rs.take (wholeCount rs front) ++ ·) <$>
        (read (remainder rs front)).mapError (Malformed.below (3 * wholeCount rs front)) := by
  have wholeComplete : ∀ r ∈ rs.take (wholeCount rs front), r.Complete :=
    fun r member => complete r (List.mem_of_mem_take member)
  have length : (rs.take (wholeCount rs front)).length = wholeCount rs front :=
    List.length_take_of_le (wholeCount_le rs front)
  have parts := read_allToBytes_append wholeComplete (remainder rs front)
  rwa [whole_append_remainder, length] at parts

/-- Reading a log of complete records that was cut off anywhere. Let `count` be the largest number
of records whose rendering is whole and `left` what is left behind it. If nothing is left, the whole
records are read. If less than a source line is left, the log is refused on the line on which it
stands, and what is left is quoted. Otherwise a source line and a part of the command behind it are left, which is all of the
command where a newline follows it, and they are read as one more record. So no whole record is
ever altered, dropped or moved. -/
theorem read_truncated (rs : List Record) (complete : ∀ r ∈ rs, r.Complete) (front : Bytes)
    (cut : front <+: Record.allToBytes rs) :
    let count := wholeCount rs front
    let left := remainder rs front
    (IsGreatest {n | n ≤ rs.length ∧ Record.allToBytes (rs.take n) <+: front} count ∧
      front = Record.allToBytes (rs.take count) ++ left) ∧
    (left = [] → read front = .ok (rs.take count)) ∧
    (left ≠ [] → Bytes.newline ∉ left →
      ∃ m, read front = .error m ∧ m.line = 3 * count + 1 ∧
        m.detail = "record for '" ++ Utf8.text left ++ "' has no command line") ∧
    (Bytes.newline ∈ left →
      ∃ r command, rs[count]? = some r ∧ command <+: r.command ∧ Bytes.newline ∉ command ∧
        (left = r.sourceLine ++ Bytes.newline :: command ∨
          left = r.sourceLine ++ Bytes.newline :: command ++ [Bytes.newline] ∧
            command = r.command) ∧
        read front = .ok (rs.take count ++ [⟨r.source, command⟩])) ∧
    (∀ records, read front = .ok records → rs.take count <+: records) := by
  intro count left
  have parts : read front =
      (rs.take count ++ ·) <$> (read left).mapError (Malformed.below (3 * count)) :=
    read_truncated_eq complete front
  have whole := whole_append_remainder rs front
  refine ⟨⟨⟨⟨wholeCount_le rs front, ⟨left, whole⟩⟩, ?_⟩, whole.symm⟩, ?_, ?_, ?_, ?_⟩
  · rintro n ⟨inside, inFront⟩
    exact le_wholeCount inside inFront
  · intro nothing
    rw [parts, nothing]
    exact congrArg Except.ok (List.append_nil _)
  · intro nonempty absent
    refine ⟨noCommand (3 * count + 1) left, ?_, rfl, rfl⟩
    rw [parts, read_eq_error nonempty absent, Nat.add_comm]
    rfl
  · intro member
    have nonempty : left ≠ [] := List.ne_nil_of_mem member
    obtain ⟨r, follows, inRecord, short⟩ := (remainder_cut cut).resolve_left nonempty
    obtain ⟨command, inCommand, line, shape, success⟩ :=
      read_cut_record (complete r (List.mem_of_getElem? follows)) inRecord short member
    refine ⟨r, command, follows, inCommand, line, shape, ?_⟩
    rw [parts, success]
    rfl
  · intro records success
    rw [parts] at success
    cases later : read left with
    | error m => rw [later] at success; exact nomatch success
    | ok more =>
        rw [later] at success
        exact ⟨more, Except.ok.inj success⟩

/-- Two records, cut off in the source line of the second, are refused on line four. -/
theorem read_truncated_source_line :
    let rs : List Record := [⟨some [0x61], [0x62]⟩, ⟨none, [0x63, 0x64]⟩]
    let front : Bytes := [0x61, 0x0A, 0x62, 0x0A, 0x0A, 0x4E, 0x6F]
    (∀ r ∈ rs, r.Complete) ∧ front <+: Record.allToBytes rs ∧ wholeCount rs front = 1 ∧
      ∃ m, read front = .error m ∧ m.line = 4 ∧
        m.detail = "record for 'No' has no command line" := by
  intro rs front
  have complete : ∀ r ∈ rs, r.Complete := by decide
  have cut : front <+: Record.allToBytes rs := by decide
  have count : wholeCount rs front = 1 := by decide
  have left : remainder rs front = [0x4E, 0x6F] := by decide
  have quoted : "record for '" ++ Utf8.text [0x4E, 0x6F] ++ "' has no command line" =
      "record for 'No' has no command line" := by decide
  have refused := (read_truncated rs complete front cut).2.2.1
  rw [count, left, quoted] at refused
  exact ⟨complete, cut, count, refused (by decide) (by decide)⟩

-- Cut off behind the second source line or later, they are read with what is left of the command.
example : read [0x61, 0x0A, 0x62, 0x0A, 0x0A, 0x4E, 0x6F, 0x6E, 0x65, 0x0A] =
    .ok [⟨some [0x61], [0x62]⟩, ⟨none, []⟩] := rfl

example : read [0x61, 0x0A, 0x62, 0x0A, 0x0A, 0x4E, 0x6F, 0x6E, 0x65, 0x0A, 0x63, 0x64, 0x0A] =
    .ok [⟨some [0x61], [0x62]⟩, ⟨none, [0x63, 0x64]⟩] := rfl

end Intercept.Log
