import Intercept.Inspector.Report
import Intercept.Proofs.Json.Reading
import Intercept.Proofs.Log.Shown

/-!
# Records as JSON

The JSON output of the inspector is read back as one object for each record. From such an object the
record is known as a reader sees it: its source, or that there is none, and its command, each as
text. Bytes that are no text are lost, and nothing else is: records of text are told apart by what
is printed of them.

Results:
1. `ofJson?_toJson`: the record that an object shows.
2. `printRecords_json_eq_iff`: which lists of records are printed alike.
3. `records_of_json`: the JSON output, and the view of each record, read back.
-/

namespace Intercept

open Utf8 (lossy)

/-! ## Definitions -/

/-- The value of the first field of this name. -/
def Json.field? (name : String) : Json → Option Json
  | .obj fields => fields.lookup name
  | _ => none

/-- What a field says of a source. -/
def Record.sourceOfJson? : Json → Option (Option Bytes)
  | .null => some none
  | .str s => some (some (Bytes.ofString s))
  | _ => none

/-- What a field says of a command. -/
def Record.commandOfJson? : Json → Option Bytes
  | .str s => some (Bytes.ofString s)
  | _ => none

/-- The record that an object shows. -/
def Record.ofJson? (view : Json) : Option Record := do
  let source ← (view.field? "source_file").bind sourceOfJson?
  let command ← (view.field? "command").bind commandOfJson?
  some ⟨source, command⟩

/-- A record of text. -/
structure Record.IsText (r : Record) : Prop where
  source : ∀ source ∈ r.source, Utf8.IsText source
  command : Utf8.IsText r.command

instance (r : Record) : Decidable r.IsText :=
  decidable_of_iff ((∀ source ∈ r.source, Utf8.IsText source) ∧ Utf8.IsText r.command)
    ⟨fun ⟨source, command⟩ => ⟨source, command⟩, fun ⟨source, command⟩ => ⟨source, command⟩⟩

namespace Record

/-! ## One record -/

theorem field?_source_toJson (r : Record) :
    r.toJson.field? "source_file" =
      some (r.source.elim .null fun bytes => .str (Utf8.text bytes)) :=
  rfl

theorem field?_command_toJson (r : Record) :
    r.toJson.field? "command" = some (.str (Utf8.text r.command)) := by
  have other : ("command" == "source_file") = false := by decide
  rw [toJson, Json.field?, List.lookup_cons, other]
  rfl

theorem sourceOfJson?_elim (source : Option Bytes) :
    sourceOfJson? (source.elim .null fun bytes => .str (Utf8.text bytes)) =
      some (source.map lossy) := by
  cases source with
  | none => rfl
  | some bytes => exact congrArg (fun shown => some (some shown)) (Utf8.ofString_text bytes)

/-- An object shows the record as a reader sees it. -/
theorem ofJson?_toJson (r : Record) : ofJson? r.toJson = some r.shown := by
  have command : commandOfJson? (.str (Utf8.text r.command)) = some (lossy r.command) :=
    congrArg some (Utf8.ofString_text r.command)
  rw [ofJson?, field?_source_toJson, field?_command_toJson, Option.bind_some, Option.bind_some,
    sourceOfJson?_elim, command]
  rfl

theorem toJson_shown (r : Record) : r.shown.toJson = r.toJson := by
  rw [toJson, toJson, shown, Utf8.text_lossy]
  cases r.source with
  | none => rfl
  | some bytes => rw [Option.map_some, Option.elim_some, Utf8.text_lossy, Option.elim_some]

/-- Text is shown as it is. -/
theorem IsText.shown_eq {r : Record} (h : r.IsText) : r.shown = r := by
  obtain ⟨source, command⟩ := r
  have kept : source.map lossy = source := by
    cases source with
    | none => rfl
    | some bytes => exact congrArg some (Utf8.lossy_eq_self_iff.mpr (h.source bytes rfl))
  rw [shown, kept, Utf8.lossy_eq_self_iff.mpr h.command]

end Record

/-! ## The output -/

namespace Inspector

theorem ofBytes?_jsonLines (value : Json) : Json.ofBytes? (jsonLines value) = some value :=
  Json.ofBytes?_spread value

/-- Records are printed alike exactly if a reader sees them alike. -/
theorem printRecords_json_eq_iff {terminal other : Bool} {rs others : List Record} :
    printRecords .json terminal rs = printRecords .json other others ↔
      rs.map Record.shown = others.map Record.shown := by
  have views (rs : List Record) :
      (rs.map Record.shown).map Record.toJson = rs.map Record.toJson := by
    rw [List.map_map]
    exact List.map_congr_left fun r _ => r.toJson_shown
  have read (rs : List Record) :
      (rs.map Record.toJson).map Record.ofJson? = (rs.map Record.shown).map some := by
    rw [List.map_map, List.map_map]
    exact List.map_congr_left fun r _ => r.ofJson?_toJson
  constructor
  · -- Equal outputs are read as the same array, of which each object shows its record.
    intro alike
    have decoded := congrArg Json.ofBytes? alike
    rw [printRecords, printRecords, ofBytes?_jsonLines, ofBytes?_jsonLines] at decoded
    have objects : rs.map Record.toJson = others.map Record.toJson :=
      Json.arr.inj (Option.some.inj decoded)
    have same := congrArg (List.map Record.ofJson?) objects
    rw [read, read] at same
    exact List.map_injective_iff.mpr (Option.some_injective Record) same
  · intro same
    rw [printRecords, printRecords, ← views rs, same, views]

/-- The JSON views are faithful. The output, read by a reader of JSON, is the array of one object
for each record, in order: its source is null exactly if there is none, so that a source of the name
`None` is the string, and is its text otherwise, and its command is the text of the command. The
object of a record alone, written on one line, is read as the same one. Two lists of records of text
are printed alike only if they are equal. -/
theorem records_of_json (terminal : Bool) (rs : List Record) :
    let view : Record → Json := fun r =>
      .obj [("source_file", match r.source with
          | none => .null
          | some source => .str (Utf8.text source)),
        ("command", .str (Utf8.text r.command))]
    Json.ofBytes? (printRecords .json terminal rs) = some (.arr (rs.map view)) ∧
    (∀ r : Record,
      Json.ofBytes? (Bytes.ofString r.toJson.compact) = some (view r) ∧
      ((view r).field? "source_file" = some .null ↔ r.source = none) ∧
      (r.source = some Record.absent → (view r).field? "source_file" = some (.str "None")) ∧
      (view r).field? "command" = some (.str (Utf8.text r.command))) ∧
    ∀ (other : Bool) (others : List Record), (∀ r ∈ rs, r.IsText) → (∀ r ∈ others, r.IsText) →
      (printRecords .json terminal rs = printRecords .json other others ↔ rs = others) := by
  intro view
  have views (r : Record) : r.toJson = view r := by
    obtain ⟨_ | source, command⟩ := r <;> rfl
  refine ⟨?_, fun r => ⟨?_, ?_, ?_, ?_⟩, ?_⟩
  · rw [printRecords, ofBytes?_jsonLines, List.map_congr_left fun r _ => views r]
  · rw [Json.ofBytes?_compact, views]
  · obtain ⟨_ | source, command⟩ := r
    · exact iff_of_true rfl rfl
    · exact iff_of_false (by simp [← views, Record.field?_source_toJson]) nofun
  · intro named
    rw [← views, Record.field?_source_toJson, named]
    rfl
  · rw [← views, Record.field?_command_toJson]
  · intro other others text texts
    have kept {rs : List Record} (text : ∀ r ∈ rs, r.IsText) : rs.map Record.shown = rs := by
      rw [List.map_congr_left fun r member => (text r member).shown_eq, List.map_id']
    rw [printRecords_json_eq_iff, kept text, kept texts]

/-- A record without a source is not printed as one whose source is named `None`. -/
theorem records_of_json_absent :
    let named : Record := ⟨some Record.absent, [0xC3, 0xA9]⟩
    let sourceless : Record := ⟨none, [0xC3, 0xA9]⟩
    named.IsText ∧ sourceless.IsText ∧
      printRecords .json true [named] ≠ printRecords .json false [sourceless] := by
  intro named sourceless
  have text : named.IsText := by decide
  have texts : sourceless.IsText := by decide
  have alike := (records_of_json true [named]).2.2 false [sourceless]
    (List.forall_mem_singleton.mpr text) (List.forall_mem_singleton.mpr texts)
  exact ⟨text, texts, fun printed => absurd (alike.mp printed) (by decide)⟩

end Inspector

end Intercept
