import Intercept.Proofs.Lines
import Intercept.Proofs.Log.Chunking

/-!
# What reading a log comes to

Reading goes over the chunks with a line counter. This module takes the counter apart from the
records: the records are those of the chunks, whatever the line, and the line of a fault moves with
the line that reading begins on. With the chunking at a boundary it follows that a log is read in
parts.

Results:
1. `read_eq_ok_iff`: which logs are read, and as which records.
2. `readable_of_read`, `command_ne_nil_of_read`: what a record that was read looks like.
3. `read_append_eq`, `read_append`: reading in parts, cut at a boundary.
-/

namespace Intercept

/-! ## Definitions -/

/-- What the first line of a record says of its source. -/
def Record.sourceOfLine (line : Bytes) : Option Bytes :=
  if line = Record.absent then none else some line

/-- A record that can stand in a log: its fields are lines, and its source is not the word that
stands for none. -/
structure Record.Readable (r : Record) : Prop where
  source_line : ∀ source ∈ r.source, Bytes.newline ∉ source
  command_line : Bytes.newline ∉ r.command
  source_ne_absent : r.source ≠ some Record.absent

instance (r : Record) : Decidable r.Readable :=
  decidable_of_iff ((∀ source ∈ r.source, Bytes.newline ∉ source) ∧ Bytes.newline ∉ r.command ∧
      r.source ≠ some Record.absent)
    ⟨fun ⟨source, command, distinct⟩ => ⟨source, command, distinct⟩,
      fun ⟨source, command, distinct⟩ => ⟨source, command, distinct⟩⟩

/-- The fault in a log that has some more lines in front. -/
def Malformed.below (lines : Nat) (m : Malformed) : Malformed := { m with line := m.line + lines }

namespace Record

theorem newline_not_mem_absent : Bytes.newline ∉ absent := by decide

theorem sourceOfLine_ne_absent (line : Bytes) : sourceOfLine line ≠ some absent := by
  unfold sourceOfLine
  split
  · exact nofun
  · next differs =>
    intro equal
    exact differs (Option.some.inj equal)

theorem sourceOfLine_sourceLine {r : Record} (distinct : r.source ≠ some absent) :
    sourceOfLine r.sourceLine = r.source := by
  unfold sourceOfLine sourceLine
  cases found : r.source with
  | none => rfl
  | some source =>
      have differs : source ≠ absent := fun equal => distinct (by rw [found, equal])
      exact if_neg differs

theorem Readable.newline_not_mem_sourceLine {r : Record} (h : r.Readable) :
    Bytes.newline ∉ r.sourceLine := by
  unfold sourceLine
  cases found : r.source with
  | none => exact newline_not_mem_absent
  | some source => exact h.source_line source found

end Record

namespace Log

/-! ## The record of a chunk -/

/-- A record is read off the first two lines of a chunk. -/
theorem record?_append_cons {line rest command : Bytes} {more : List Bytes}
    (absent : Bytes.newline ∉ line) (cut : Bytes.splitAt Bytes.newline rest = command :: more) :
    record? (line ++ Bytes.newline :: rest) = some ⟨Record.sourceOfLine line, command⟩ := by
  rw [record?, Bytes.splitAt_append_cons absent, cut]
  rfl

theorem record?_eq_none_iff {chunk : Bytes} :
    record? chunk = none ↔ Bytes.newline ∉ chunk := by
  constructor
  · intro unread member
    obtain ⟨line, rest, rfl, absent⟩ := List.eq_append_cons_of_mem member
    obtain ⟨command, more, cut⟩ :=
      List.exists_cons_of_ne_nil (Bytes.splitAt_ne_nil Bytes.newline rest)
    rw [record?_append_cons absent cut] at unread
    exact nomatch unread
  · intro absent
    rw [record?, Bytes.splitAt_eq_singleton absent]

theorem newline_mem_of_record? {chunk : Bytes} {r : Record} (found : record? chunk = some r) :
    Bytes.newline ∈ chunk := by
  by_contra absent
  rw [record?_eq_none_iff.mpr absent] at found
  exact nomatch found

/-- The two lines that a record was read off. -/
theorem exists_lines_of_record? {chunk : Bytes} {r : Record} (found : record? chunk = some r) :
    ∃ line rest more, chunk = line ++ Bytes.newline :: rest ∧ Bytes.newline ∉ line ∧
      Bytes.splitAt Bytes.newline rest = r.command :: more ∧
      r.source = Record.sourceOfLine line := by
  obtain ⟨line, rest, rfl, absent⟩ := List.eq_append_cons_of_mem (newline_mem_of_record? found)
  obtain ⟨command, more, cut⟩ :=
    List.exists_cons_of_ne_nil (Bytes.splitAt_ne_nil Bytes.newline rest)
  rw [record?_append_cons absent cut, Option.some.injEq] at found
  subst found
  exact ⟨line, rest, more, rfl, absent, cut, rfl⟩

theorem readable_of_record? {chunk : Bytes} {r : Record} (found : record? chunk = some r) :
    r.Readable := by
  obtain ⟨line, rest, more, -, absent, cut, source⟩ := exists_lines_of_record? found
  have member : r.command ∈ Bytes.splitAt Bytes.newline rest := cut ▸ List.mem_cons_self
  refine ⟨?_, Bytes.not_mem_of_mem_splitAt member, ?_⟩
  · intro name named
    rw [source, Record.sourceOfLine] at named
    split at named
    · exact absurd named (by simp)
    · rw [← Option.some.inj named]
      exact absent
  · rw [source]
    exact Record.sourceOfLine_ne_absent line

/-- A chunk that another one follows does not end behind its first line. -/
theorem command_ne_nil_of_record? {chunk : Bytes} {r : Record} (closed : Closed chunk)
    (found : record? chunk = some r) : r.command ≠ [] := by
  obtain ⟨line, rest, more, rfl, -, cut, -⟩ := exists_lines_of_record? found
  intro empty
  rw [empty] at cut
  have join : Bytes.joinWith Bytes.newline ([] :: more) = rest := by
    rw [← cut, Bytes.joinWith_splitAt]
  cases more with
  | nil =>
      rw [← join] at closed
      exact closed.not_open (List.suffix_append line _)
  | cons next others =>
      rw [← join] at closed
      exact closed.not_blank ⟨line, Bytes.joinWith Bytes.newline (next :: others), by
        simp [Bytes.joinWith]⟩

/-! ## The records of chunks, and the lines of faults -/

theorem record?_nil : record? [] = none := rfl

theorem readFrom_cons_of_record? {chunk : Bytes} {r : Record} (found : record? chunk = some r)
    (line : Nat) (rest : List Bytes) :
    readFrom line (chunk :: rest) =
      (r :: ·) <$> readFrom (line + newlines chunk + 2) rest := by
  cases chunk with
  | nil => exact nomatch found
  | cons b bytes => rw [readFrom, found]; exact List.cons_ne_nil b bytes

theorem readFrom_cons_of_not_mem {chunk : Bytes} (nonempty : chunk ≠ [])
    (absent : Bytes.newline ∉ chunk) (line : Nat) (rest : List Bytes) :
    readFrom line (chunk :: rest) = .error (noCommand line chunk) := by
  rw [readFrom, record?_eq_none_iff.mpr absent]
  exact nonempty

/-- The chunks behind others are read on from the line that these end on. -/
theorem readFrom_append (line : Nat) (before after : List Bytes) :
    readFrom line (before ++ after) =
      (readFrom line before).bind fun rs =>
        (rs ++ ·) <$> readFrom (line + height before) after := by
  fun_induction readFrom line before with
  | case1 line => cases h : readFrom line after <;> simp [height, Except.bind, h]
  | case2 line rest ih =>
      rw [List.cons_append, readFrom, ih, height]
      simp [newlines, Nat.add_assoc]
  | case3 line chunk rest nonempty unread =>
      rw [List.cons_append, readFrom_cons_of_not_mem nonempty (record?_eq_none_iff.mp unread)]
      rfl
  | case4 line chunk rest nonempty r found ih =>
      rw [List.cons_append, readFrom_cons_of_record? found, ih, height]
      cases readFrom (line + newlines chunk + 2) rest with
      | error m => rfl
      | ok rs =>
          have lines : line + newlines chunk + 2 + height rest =
              line + (newlines chunk + 2 + height rest) := by omega
          rw [lines]
          cases readFrom (line + (newlines chunk + 2 + height rest)) after <;> rfl

/-- Only the line of a fault depends on the line that reading begins on. -/
theorem readFrom_add (line lines : Nat) (chunks : List Bytes) :
    readFrom (line + lines) chunks = (readFrom line chunks).mapError (Malformed.below lines) := by
  fun_induction readFrom line chunks with
  | case1 line => rfl
  | case2 line rest ih => rw [readFrom, Nat.add_right_comm, ih]
  | case3 line chunk rest nonempty unread =>
      rw [readFrom_cons_of_not_mem nonempty (record?_eq_none_iff.mp unread)]
      rfl
  | case4 line chunk rest nonempty r found ih =>
      have next : line + lines + newlines chunk + 2 = line + newlines chunk + 2 + lines := by omega
      rw [readFrom_cons_of_record? found, next, ih]
      cases readFrom (line + newlines chunk + 2) rest <;> rfl

/-- Chunks are read if every one that holds anything holds two lines. -/
theorem readFrom_eq_ok_iff {line : Nat} {chunks : List Bytes} {rs : List Record} :
    readFrom line chunks = .ok rs ↔
      (∀ chunk ∈ chunks, chunk ≠ [] → Bytes.newline ∈ chunk) ∧ rs = chunks.filterMap record? := by
  fun_induction readFrom line chunks generalizing rs with
  | case1 line => simp [eq_comm]
  | case2 line rest ih =>
      rw [ih, List.filterMap_cons_none record?_nil, List.forall_mem_cons]
      simp
  | case3 line chunk rest nonempty unread =>
      refine ⟨nofun, fun h => ?_⟩
      exact absurd (h.1 chunk List.mem_cons_self nonempty) (record?_eq_none_iff.mp unread)
  | case4 line chunk rest nonempty r found ih =>
      have member : Bytes.newline ∈ chunk := newline_mem_of_record? found
      rw [List.filterMap_cons_some found, List.forall_mem_cons]
      constructor
      · intro read
        cases later : readFrom (line + newlines chunk + 2) rest with
        | error m => rw [later] at read; exact nomatch read
        | ok others =>
            obtain ⟨lines, records⟩ := ih.mp later
            rw [later] at read
            have equal : r :: others = rs := Except.ok.inj read
            exact ⟨⟨fun _ => member, lines⟩, by rw [← equal, records]⟩
      · rintro ⟨⟨-, lines⟩, rfl⟩
        rw [ih.mpr ⟨lines, rfl⟩]
        rfl

/-! ## What a record that was read looks like -/

/-- A log is read if every chunk that holds anything holds two lines. -/
theorem read_eq_ok_iff {bytes : Bytes} {rs : List Record} :
    read bytes = .ok rs ↔
      (∀ chunk ∈ chunks bytes, chunk ≠ [] → Bytes.newline ∈ chunk) ∧
        rs = (chunks bytes).filterMap record? :=
  readFrom_eq_ok_iff

theorem readable_of_read {bytes : Bytes} {rs : List Record} (success : read bytes = .ok rs) :
    ∀ r ∈ rs, r.Readable := by
  obtain ⟨-, rfl⟩ := read_eq_ok_iff.mp success
  intro r member
  obtain ⟨chunk, -, found⟩ := List.mem_filterMap.mp member
  exact readable_of_record? found

/-- Only the last record that is read can have an empty command. -/
theorem command_ne_nil_of_read {bytes : Bytes} {rs : List Record} (success : read bytes = .ok rs) :
    ∀ r ∈ rs.dropLast, r.command ≠ [] := by
  obtain ⟨-, rfl⟩ := read_eq_ok_iff.mp success
  obtain ⟨before, last, cut⟩ :=
    (List.eq_nil_or_concat' (chunks bytes)).resolve_left (chunks_ne_nil bytes)
  have closed : ∀ chunk ∈ before, Closed chunk :=
    ((chunking_append (List.cons_ne_nil last [])).mp (cut ▸ chunking_chunks bytes)).1
  intro r member
  have early : r ∈ before.filterMap record? := by
    rw [cut, List.filterMap_append] at member
    cases found : record? last with
    | none => exact List.mem_of_mem_dropLast (by simpa [found] using member)
    | some other => simpa [found] using member
  obtain ⟨chunk, inBefore, found⟩ := List.mem_filterMap.mp early
  exact command_ne_nil_of_record? (closed chunk inBefore) found

/-! ## Reading in parts -/

/-- A written record with a command leaves a boundary, whatever stands in front of it. -/
theorem atBoundary_append_toBytes (earlier : Bytes) {r : Record} (nonempty : r.command ≠ [])
    (line : Bytes.newline ∉ r.command) : AtBoundary (earlier ++ r.toBytes) := by
  have shape : earlier ++ r.toBytes =
      (earlier ++ r.sourceLine ++ [Bytes.newline] ++ r.command) ++
        [Bytes.newline, Bytes.newline] := by
    simp [Record.toBytes]
  rw [shape]
  exact atBoundary_append_pair (not_open_append _ nonempty line)

/-- A log that is cut at a boundary is read in two parts: the records behind the boundary follow
those in front of it, and a fault behind it stands below the lines in front. -/
theorem read_append_eq {front : Bytes} (boundary : AtBoundary front) (back : Bytes) :
    read (front ++ back) =
      (read front).bind fun rs =>
        (rs ++ ·) <$> (read back).mapError (Malformed.below (newlines front)) := by
  obtain ⟨before, cut, ended, closed⟩ := exists_ended_of_atBoundary boundary
  -- The empty chunk that the boundary leaves at the end of the front holds no record.
  have alone : read front = readFrom 1 before := by
    rw [read, cut, readFrom_append]
    cases readFrom 1 before with
    | error m => rfl
    | ok rs => exact congrArg Except.ok (List.append_nil rs)
  have lines : newlines front = height before := by rw [ended, newlines_ended]
  have follows : chunks (front ++ back) = before ++ chunks back := by
    rw [ended, chunks_ended_append closed]
  rw [alone, read, follows, readFrom_append, lines, read, readFrom_add]

/-- Reading is compositional at a boundary: what stands in front of it decides first, what stands
behind it is read as if the log began there, and a fault there keeps its wording and stands as many
lines further down as there are newlines in front. A record that is read back to its end leaves a
boundary, whatever stands in front of it. -/
theorem read_append (front back : Bytes) :
    (AtBoundary front →
      (∀ m, read front = .error m → read (front ++ back) = .error m) ∧
      (∀ rs later, read front = .ok rs → read back = .ok later →
        read (front ++ back) = .ok (rs ++ later)) ∧
      (∀ rs m, read front = .ok rs → read back = .error m →
        read (front ++ back) = .error { m with line := m.line + newlines front })) ∧
    (∀ (earlier : Bytes) (r : Record) (rs : List Record),
      front = earlier ++ r.toBytes → r.command ≠ [] → Bytes.newline ∉ r.command →
      read front = .ok rs →
        (∀ later, read back = .ok later → read (front ++ back) = .ok (rs ++ later)) ∧
        (∀ m, read back = .error m →
          read (front ++ back) = .error { m with line := m.line + newlines front })) := by
  have parts : AtBoundary front → _ := fun boundary => read_append_eq boundary back
  refine ⟨fun boundary => ⟨?_, ?_, ?_⟩, ?_⟩
  · intro m refused
    rw [parts boundary, refused]
    rfl
  · intro rs later success successLater
    rw [parts boundary, success, successLater]
    rfl
  · intro rs m success refused
    rw [parts boundary, success, refused]
    rfl
  · intro earlier r rs ends nonempty line success
    have boundary : AtBoundary front := ends ▸ atBoundary_append_toBytes earlier nonempty line
    refine ⟨fun later successLater => ?_, fun m refused => ?_⟩
    · rw [parts boundary, success, successLater]
      rfl
    · rw [parts boundary, success, refused]
      rfl

/-- A log of one record, with a chunk of a single line behind it or with another record. -/
theorem read_append_one_record :
    let r : Record := ⟨some [0x61], [0x62]⟩
    AtBoundary r.toBytes ∧ read r.toBytes = .ok [r] ∧
      read [0x63] = .error (noCommand 1 [0x63]) ∧
      read (r.toBytes ++ [0x63]) = .error (noCommand 4 [0x63]) ∧
      read (r.toBytes ++ r.toBytes) = .ok [r, r] := by
  intro r
  have boundary : AtBoundary r.toBytes := by decide
  have success : read r.toBytes = .ok [r] := rfl
  have refused : read [0x63] = .error (noCommand 1 [0x63]) := rfl
  refine ⟨boundary, success, refused, ?_, ?_⟩
  · exact ((read_append r.toBytes [0x63]).1 boundary).2.2 [r] _ success refused
  · exact ((read_append r.toBytes r.toBytes).2 [] r [r] rfl (by decide) (by decide) success).1
      [r] success

end Log

end Intercept
