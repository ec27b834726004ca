import Intercept.Inspector.Report
import Intercept.Proofs.Log.Reading
import Mathlib.Data.List.Basic

/-!
# What the inspector lists

No source that was read from a log holds a newline, so the lines of a plain listing are the sources
themselves.

Results:
1. `listed_eq_eraseDups`, `mem_listed_iff`: listing each source once leaves out repetitions alone.
2. `outputLines_flatMap`, `outputLines_printSources`: the lines of an output, of a plain listing.
3. `output_report_sources`, `output_report_records`: the output of a request for a log that can be
   read.
4. `outputLines_report`: the lines of the report on the sources of such a log.
-/

namespace Intercept.Inspector

/-- The lines of an output, each of which ends in a newline. -/
def outputLines (output : Bytes) : List Bytes := (Bytes.splitAt Bytes.newline output).dropLast

/-- Only a source that is new is added to those without repetition. -/
theorem eraseDups_concat (xs : List Bytes) (x : Bytes) :
    (xs ++ [x]).eraseDups = if x ∈ xs then xs.eraseDups else xs.eraseDups ++ [x] := by
  rw [List.eraseDups_append]
  by_cases old : x ∈ xs
  · have nothing : [x].removeAll xs = [] := by simp [List.removeAll, old]
    rw [nothing, if_pos old, List.eraseDups_nil, List.append_nil]
  · have new : [x].removeAll xs = [x] := by simp [List.removeAll, old]
    rw [new, if_neg old]
    rfl

/-- While the sources are gone through, those that have been seen are those in front. -/
theorem eraseDups_append_unseen {front seen : List Bytes} (same : ∀ x, x ∈ seen ↔ x ∈ front)
    (rest : List Bytes) : (front ++ rest).eraseDups = front.eraseDups ++ unseen seen rest := by
  induction rest generalizing front seen with
  | nil => rw [unseen, List.append_nil, List.append_nil]
  | cons source rest ih =>
      have moved : front ++ source :: rest = (front ++ [source]) ++ rest := by
        rw [List.append_assoc, List.singleton_append]
      by_cases old : source ∈ seen
      · have same' : ∀ x, x ∈ seen ↔ x ∈ front ++ [source] := by
          intro x
          rw [same, List.mem_append, List.mem_singleton]
          refine ⟨Or.inl, fun either => either.elim id ?_⟩
          rintro rfl
          exact (same x).mp old
        rw [moved, ih same', eraseDups_concat, if_pos ((same source).mp old), unseen, if_pos old]
      · have same' : ∀ x, x ∈ source :: seen ↔ x ∈ front ++ [source] := by
          intro x
          rw [List.mem_cons, same, List.mem_append, List.mem_singleton, or_comm]
        have new : source ∉ front := fun inFront => old ((same source).mpr inFront)
        rw [moved, ih same', eraseDups_concat, if_neg new, unseen, if_neg old, List.append_assoc,
          List.singleton_append]

/-- Going through the sources with what has been seen leaves out what is there already. -/
theorem listed_eq_eraseDups (rs : List Record) :
    listed true rs = (Record.sources rs).eraseDups := by
  have none : ∀ x : Bytes, x ∈ ([] : List Bytes) ↔ x ∈ ([] : List Bytes) := fun _ => Iff.rfl
  exact (eraseDups_append_unseen none (Record.sources rs)).symm

theorem mem_listed_iff {unique : Bool} {rs : List Record} {source : Bytes} :
    source ∈ listed unique rs ↔ ∃ r ∈ rs, r.source = some source := by
  have named : source ∈ Record.sources rs ↔ ∃ r ∈ rs, r.source = some source := by
    simp [Record.sources]
  cases unique with
  | false => exact named
  | true => rw [listed_eq_eraseDups, List.mem_eraseDups, named]

/-- What is listed does not hang on the order of the records, but for its own order. -/
theorem mem_listed_iff_of_perm {unique : Bool} {first second : List Record}
    (same : first.Perm second) {source : Bytes} :
    source ∈ listed unique first ↔ source ∈ listed unique second := by
  rw [mem_listed_iff, mem_listed_iff]
  exact exists_congr fun r => and_congr_left' same.mem_iff

/-- Lines that each got their end are the lines of the output. -/
theorem outputLines_flatMap {lines : List Bytes} (single : ∀ line ∈ lines, Bytes.newline ∉ line) :
    outputLines (lines.flatMap fun line => line ++ [Bytes.newline]) = lines := by
  rw [outputLines, Bytes.splitAt_flatMap_concat single, List.dropLast_concat]

theorem outputLines_printSources {log : Bytes} {rs : List Record}
    (success : Log.read log = .ok rs) (unique : Bool) :
    outputLines (printSources .plain (listed unique rs)) = listed unique rs := by
  refine outputLines_flatMap fun source member => ?_
  obtain ⟨r, inLog, named⟩ := mem_listed_iff.mp member
  exact (Log.readable_of_read success r inLog).source_line source named

/-- Of a log that can be read, the records are printed. -/
theorem onLog_of_read {readFile : Bytes → Except Fault Bytes} {build : Build} {file : Option Bytes}
    {log : Bytes} {rs : List Record} (found : readFile (file.getD build.settings.results) = .ok log)
    (success : Log.read log = .ok rs) (print : List Record → Bytes) :
    onLog readFile build file print =
      { output := print rs, events := [.readingLog (file.getD build.settings.results)] } := by
  simp [onLog, found, success, Except.mapError, bind, Except.bind]

/-- What is reported of a log that can be read, for a request to list its sources. -/
theorem output_report_sources {readFile : Bytes → Except Fault Bytes} {build : Build}
    {file : Option Bytes} {log : Bytes} {rs : List Record}
    (found : readFile (file.getD build.settings.results) = .ok log)
    (success : Log.read log = .ok rs) (terminal unique : Bool) (format : OutputFormat)
    (level : Level) :
    (report readFile build terminal ⟨.sources file unique, format, level⟩).output =
      printSources format (listed unique rs) :=
  congrArg Report.output (onLog_of_read found success _)

/-- And for a request to print its records. -/
theorem output_report_records {readFile : Bytes → Except Fault Bytes} {build : Build}
    {file : Option Bytes} {log : Bytes} {rs : List Record}
    (found : readFile (file.getD build.settings.results) = .ok log)
    (success : Log.read log = .ok rs) (terminal : Bool) (format : OutputFormat) (level : Level) :
    (report readFile build terminal ⟨.records file, format, level⟩).output =
      printRecords format terminal rs :=
  congrArg Report.output (onLog_of_read found success _)

theorem outputLines_report {log : Bytes} {rs : List Record} (success : Log.read log = .ok rs)
    (build : Build) (terminal : Bool) (file : Option Bytes) (unique : Bool) (level : Level) :
    outputLines (report (fun _ => .ok log) build terminal
      ⟨.sources file unique, .plain, level⟩).output = listed unique rs := by
  have found : (fun _ => .ok log : Bytes → Except Fault Bytes)
      (file.getD build.settings.results) = .ok log := rfl
  rw [output_report_sources found success, outputLines_printSources success]

end Intercept.Inspector
