import Intercept.Proofs.Inspector

/-!
# Records on lines

The plain output for records holds a line for each of them: its source, or the word that stands for
none, a tab, and its command. Nothing is escaped in it. That the lines can be told apart, and that
no source is taken for none, is known of records that were read from a log; that a source ends at
the first tab is known if it holds no tab of its own.

Results:
1. `printRecords_eq`, `outputLines_printRecords`: the lines of the output.
2. `ofLine?_line_iff`: a line is read as its record unless the source holds a tab.
3. `columns_sources`: the first column names the sources.
4. `records_by_lines`: the output for a log, read back.
-/

namespace Intercept

/-! ## Definitions -/

/-- The line of a record, without its end. -/
def Record.line (r : Record) : Bytes := r.sourceLine ++ Bytes.tab :: r.command

/-- What stands in front of the first tab of a line. -/
def Record.firstColumn (line : Bytes) : Bytes := (Bytes.breakAt Bytes.tab line).1

/-- The record that a line holds, cut at its first tab. -/
def Record.ofLine? (line : Bytes) : Option Record :=
  match Bytes.breakAt Bytes.tab line with
  | (source, some command) => some ⟨sourceOfLine source, command⟩
  | (_, none) => none

/-- The record's source ends at the first tab of its line. -/
def Record.NoTab (r : Record) : Prop := ∀ source ∈ r.source, Bytes.tab ∉ source

/-! ## One line -/

namespace Record

theorem NoTab.not_mem_sourceLine {r : Record} (h : r.NoTab) : Bytes.tab ∉ r.sourceLine := by
  unfold sourceLine
  cases found : r.source with
  | none => decide
  | some source => exact h source found

theorem NoTab.firstColumn_line {r : Record} (h : r.NoTab) : firstColumn r.line = r.sourceLine := by
  rw [firstColumn, line, Bytes.breakAt_append_cons h.not_mem_sourceLine]

/-- A line is read as its record exactly if the source is not cut short by a tab. -/
theorem ofLine?_line_iff {r : Record} (distinct : r.source ≠ some absent) :
    ofLine? r.line = some r ↔ r.NoTab := by
  constructor
  · -- The first column holds no tab, and it is the whole source if the record is read back.
    intro found source named tab
    unfold ofLine? at found
    split at found
    · next first command cut =>
      have named' : sourceOfLine first = some source := by
        rw [← named, ← Option.some.inj found]
      have whole : first = source := by
        unfold sourceOfLine at named'
        split at named'
        · exact nomatch named'
        · exact Option.some.inj named'
      have clean : Bytes.tab ∉ first := by
        have noTab := Bytes.not_mem_breakAt Bytes.tab r.line
        rwa [cut] at noTab
      exact clean (whole ▸ tab)
    · exact nomatch found
  · intro h
    rw [ofLine?, line, Bytes.breakAt_append_cons h.not_mem_sourceLine]
    exact congrArg (fun source => some (Record.mk source r.command))
      (sourceOfLine_sourceLine distinct)

theorem Readable.newline_not_mem_line {r : Record} (h : r.Readable) : Bytes.newline ∉ r.line := by
  intro member
  rcases List.mem_append.mp member with inSource | behind
  · exact h.newline_not_mem_sourceLine inSource
  · rcases List.mem_cons.mp behind with equal | inCommand
    · exact absurd equal (by decide)
    · exact h.command_line inCommand

end Record

/-! ## The output -/

namespace Inspector

theorem printRecords_eq (rs : List Record) :
    printRecords .plain false rs =
      (rs.map Record.line).flatMap fun line => line ++ [Bytes.newline] := by
  rw [printRecords, List.flatMap_map]
  rfl

theorem newline_not_mem_lines {rs : List Record} (readable : ∀ r ∈ rs, r.Readable) :
    ∀ line ∈ rs.map Record.line, Bytes.newline ∉ line := by
  intro line member
  obtain ⟨r, inLog, rfl⟩ := List.mem_map.mp member
  exact (readable r inLog).newline_not_mem_line

theorem outputLines_printRecords {rs : List Record} (readable : ∀ r ∈ rs, r.Readable) :
    outputLines (printRecords .plain false rs) = rs.map Record.line := by
  rw [printRecords_eq, outputLines_flatMap (newline_not_mem_lines readable)]

/-- The lines are read as their records exactly if no source holds a tab. -/
theorem map_ofLine?_eq_iff {rs : List Record} (readable : ∀ r ∈ rs, r.Readable) :
    (rs.map Record.line).map Record.ofLine? = rs.map some ↔ ∀ r ∈ rs, r.NoTab := by
  rw [List.map_map, List.map_inj_left]
  exact forall₂_congr fun r member => Record.ofLine?_line_iff (readable r member).source_ne_absent

/-- The first columns name the sources, where they are not the word for none. -/
theorem columns_sources {rs : List Record} (readable : ∀ r ∈ rs, r.Readable)
    (clean : ∀ r ∈ rs, r.NoTab) :
    ((rs.map Record.line).map Record.firstColumn).filter (· ≠ Record.absent) =
      Record.sources rs := by
  induction rs with
  | nil => rfl
  | cons r rest ih =>
      obtain ⟨own, others⟩ := List.forall_mem_cons.mp readable
      obtain ⟨ownClean, othersClean⟩ := List.forall_mem_cons.mp clean
      have later := ih others othersClean
      rw [List.map_cons, List.map_cons, ownClean.firstColumn_line, List.filter_cons, later]
      unfold Record.sourceLine Record.sources
      cases found : r.source with
      | none => rw [List.filterMap_cons_none found]; rfl
      | some source =>
          have named : source ≠ Record.absent := fun equal =>
            own.source_ne_absent (by rw [found, equal])
          rw [List.filterMap_cons_some found]
          exact if_pos (decide_eq_true named)

/-- The plain output for the records of a log, where it does not go to a terminal. It holds one line
for each record, in order, that is the source or the word for none, a tab and the command. If no
source holds a tab, and only then, the lines are read as the records: each is cut at its first tab,
and the word for none is read as no source, while commands may hold tabs and bytes of any kind. The
first columns that are not this word are then the lines of the plain output for the sources. -/
theorem records_by_lines {log : Bytes} {rs : List Record} (success : Log.read log = .ok rs) :
    let printed := printRecords .plain false rs
    let lines := outputLines printed
    printed = lines.flatMap (fun line => line ++ [Bytes.newline]) ∧
    (∀ line ∈ lines, Bytes.newline ∉ line) ∧
    lines = rs.map (fun r => r.source.getD Record.absent ++ Bytes.tab :: r.command) ∧
    (lines.map Record.ofLine? = rs.map some ↔
      ∀ r ∈ rs, ∀ source ∈ r.source, Bytes.tab ∉ source) ∧
    ((∀ r ∈ rs, ∀ source ∈ r.source, Bytes.tab ∉ source) →
      (lines.map fun line => (Bytes.breakAt Bytes.tab line).1).filter (· ≠ Record.absent) =
        outputLines (printSources .plain (listed false rs))) ∧
    ∀ (readFile : Bytes → Except Fault Bytes) (build : Build) (file : Option Bytes) (level : Level),
      readFile (file.getD build.settings.results) = .ok log →
      (report readFile build false ⟨.records file, .plain, level⟩).output = printed ∧
      (report readFile build false ⟨.sources file false, .plain, level⟩).output =
        printSources .plain (listed false rs) := by
  intro printed lines
  have readable := Log.readable_of_read success
  have shape : lines = rs.map Record.line := outputLines_printRecords readable
  refine ⟨?_, ?_, shape, ?_, ?_, ?_⟩
  · rw [shape]
    exact printRecords_eq rs
  · rw [shape]
    exact newline_not_mem_lines readable
  · rw [shape]
    exact map_ofLine?_eq_iff readable
  · intro clean
    rw [shape, outputLines_printSources success]
    exact columns_sources readable clean
  · intro readFile build file level found
    exact ⟨output_report_records found success false .plain level,
      output_report_sources found success false false .plain level⟩

/-- A record without a source, with a tab and a byte that is no text in its command, and one with a
source. -/
theorem records_by_lines_tab_in_command :
    let rs : List Record := [⟨none, [0x61, Bytes.tab, 0xFF]⟩, ⟨some [0xFE], [Bytes.tab]⟩]
    let lines := outputLines (printRecords .plain false rs)
    Log.read (Record.allToBytes rs) = .ok rs ∧
      (∀ r ∈ rs, ∀ source ∈ r.source, Bytes.tab ∉ source) ∧
      lines.map Record.ofLine? = rs.map some ∧
      (lines.map fun line => (Bytes.breakAt Bytes.tab line).1).filter (· ≠ Record.absent) =
        [[0xFE]] ∧
      (report (fun _ => .ok (Record.allToBytes rs)) Build.installed false
        ⟨.records none, .plain, .warn⟩).output = printRecords .plain false rs := by
  intro rs lines
  have success : Log.read (Record.allToBytes rs) = .ok rs := by decide
  have clean : ∀ r ∈ rs, ∀ source ∈ r.source, Bytes.tab ∉ source := by decide
  obtain ⟨-, -, -, back, columns, reported⟩ := records_by_lines success
  refine ⟨success, clean, back.mpr clean, ?_, ?_⟩
  · rw [columns clean]
    decide
  · exact (reported _ Build.installed none .warn rfl).1

end Inspector

end Intercept
