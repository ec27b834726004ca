import Intercept.Expectation
import Intercept.Proofs.Log.RoundTrip
import Intercept.Proofs.Text.Decoding

/-!
# What an expectation on a log accepts

A log is read, then its records are counted, then the source of the only one is compared; the first
of these steps that fails is what is told. This module says which logs are accepted, and for logs
that were written record by record, which failure is told of the others.

Results:
1. `records_of_read`, `onlyRecord_of_count`, `onlyRecord_of_source`: the failures, in their order.
2. `records_eq_ok_iff`, `onlyRecord_eq_ok_iff`: which logs are accepted, and what is returned.
3. `readable_of_onlyRecord`, `text_of_onlyRecord`: what is known of an accepted source.
4. `message_ne_unreadable`: a failure is not worded as that of a log that cannot be read.
5. `accepted_exactly`: all of this together.
-/

namespace Intercept.Expectation

/-! ## Failures -/

/-- Of a log that can be read nothing but the number of its records is told. -/
theorem records_of_read {log : Bytes} {rs : List Record} (success : Log.read log = .ok rs)
    (expected : Nat) :
    records log expected =
      if rs.length = expected then .ok rs else .error (.count expected rs.length) := by
  rw [records, success]

theorem onlyRecord_of_count {log : Bytes} {rs : List Record} (success : Log.read log = .ok rs)
    (miscounted : rs.length ≠ 1) (expected : Option String) :
    onlyRecord log expected = .error (.count 1 rs.length) := by
  rw [onlyRecord, records_of_read success, if_neg miscounted]

/-- The source is compared once the record is known to be the only one. -/
theorem onlyRecord_of_read {log : Bytes} {r : Record} (success : Log.read log = .ok [r])
    (expected : Option String) :
    onlyRecord log expected =
      if r.source = expected.map Bytes.ofString then .ok r
      else .error (.source expected r.source) := by
  rw [onlyRecord, records_of_read success, if_pos List.length_singleton]

theorem onlyRecord_of_source {log : Bytes} {r : Record} (success : Log.read log = .ok [r])
    {expected : Option String} (other : r.source ≠ expected.map Bytes.ofString) :
    onlyRecord log expected = .error (.source expected r.source) :=
  (onlyRecord_of_read success expected).trans (if_neg other)

theorem onlyRecord_ne_unreadable {log : Bytes} {rs : List Record} (success : Log.read log = .ok rs)
    (expected : Option String) (m : Malformed) :
    onlyRecord log expected ≠ .error (.unreadable m) := by
  intro told
  by_cases one : rs.length = 1
  · obtain ⟨r, rfl⟩ := List.length_eq_one_iff.mp one
    rw [onlyRecord_of_read success] at told
    split at told <;> exact nomatch told
  · rw [onlyRecord_of_count success one] at told
    exact nomatch told

/-! ## Which logs are accepted -/

theorem records_eq_ok_iff {log : Bytes} {expected : Nat} {rs : List Record} :
    records log expected = .ok rs ↔ Log.read log = .ok rs ∧ rs.length = expected := by
  constructor
  · intro accepted
    cases success : Log.read log with
    | error m =>
        rw [records, success] at accepted
        exact nomatch accepted
    | ok found =>
        rw [records_of_read success] at accepted
        split at accepted
        · next counted =>
          cases accepted
          exact ⟨rfl, counted⟩
        · exact nomatch accepted
  · rintro ⟨success, counted⟩
    rw [records_of_read success, if_pos counted]

theorem onlyRecord_eq_ok_iff {log : Bytes} {expected : Option String} {r : Record} :
    onlyRecord log expected = .ok r ↔
      Log.read log = .ok [r] ∧ r.source = expected.map Bytes.ofString := by
  constructor
  · intro accepted
    cases counted : records log 1 with
    | error unmet =>
        rw [onlyRecord, counted] at accepted
        exact nomatch accepted
    | ok found =>
        obtain ⟨success, one⟩ := records_eq_ok_iff.mp counted
        obtain ⟨only, rfl⟩ := List.length_eq_one_iff.mp one
        rw [onlyRecord_of_read success] at accepted
        split at accepted
        · next same =>
          cases accepted
          exact ⟨success, same⟩
        · exact nomatch accepted
  · rintro ⟨success, same⟩
    rw [onlyRecord_of_read success, if_pos same]

/-! ## Which sources are accepted -/

/-- An accepted source is one that a log can name, whatever the log looks like. -/
theorem readable_of_onlyRecord {log : Bytes} {expected : Option String} {r : Record}
    (accepted : onlyRecord log expected = .ok r) : r.Readable :=
  Log.readable_of_read (onlyRecord_eq_ok_iff.mp accepted).1 r List.mem_cons_self

theorem newline_mem_ofString {text : String} (line : '\n' ∈ text.toList) :
    Bytes.newline ∈ Bytes.ofString text :=
  List.mem_flatMap.mpr ⟨'\n', line, by decide⟩

/-- The word for no source is not accepted as the name of one, and neither are two lines. -/
theorem text_of_onlyRecord {log : Bytes} {text : String} {r : Record}
    (accepted : onlyRecord log (some text) = .ok r) : text ≠ "None" ∧ '\n' ∉ text.toList := by
  have source : r.source = some (Bytes.ofString text) := (onlyRecord_eq_ok_iff.mp accepted).2
  have readable := readable_of_onlyRecord accepted
  constructor
  · rintro rfl
    exact readable.source_ne_absent source
  · intro line
    exact readable.source_line _ source (newline_mem_ofString line)

/-! ## The words of a failure -/

theorem head?_append (front : String) {c : Char} (begins : front.toList.head? = some c)
    (rest : String) : (front ++ rest).toList.head? = some c := by
  rw [String.toList_append, List.head?_append, begins, Option.some_or]

theorem head?_message_unreadable (m : Malformed) :
    (Unmet.unreadable m).message.toList.head? = some 'R' :=
  head?_append "Results log did not parse: " (by decide) _

theorem head?_message {unmet : Unmet} (readable : ∀ m, unmet ≠ .unreadable m) :
    unmet.message.toList.head? = some 'E' := by
  cases unmet with
  | unreadable m => exact absurd rfl (readable m)
  | count expected found =>
      exact head?_append _ (head?_append _ (head?_append "Expected " (by decide) _) _) _
  | source expected found =>
      exact head?_append _ (head?_append _ (head?_append "Expected source " (by decide) _) _) _

/-- The other failures begin with another letter than that of a log that cannot be read. -/
theorem message_ne_unreadable {unmet : Unmet} (readable : ∀ m, unmet ≠ .unreadable m)
    (m : Malformed) : unmet.message ≠ (Unmet.unreadable m).message := by
  intro same
  have first := head?_message readable
  rw [same, head?_message_unreadable] at first
  exact absurd first (by decide)

/-- The expectations accept exactly the right logs. On a log that complete records were written to,
a number of records is accepted exactly if it is theirs, and they are returned; a source is accepted
exactly if there is one record and this is its source byte for byte, so that a missing source is
accepted for none and a source that is no text is not accepted at all. What is told otherwise is the
number if it is not one, and then the source, and never in the words for a log that cannot be read.
On any log at all, no source is accepted that is the word for none or holds a newline, and what is
returned is the only record of the log. -/
theorem accepted_exactly :
    (∀ rs : List Record, (∀ r ∈ rs, r.Complete) →
      let log := Record.allToBytes rs
      (∀ expected, records log expected =
        if expected = rs.length then .ok rs else .error (.count expected rs.length)) ∧
      (∀ expected,
        (∀ r, onlyRecord log expected = .ok r ↔
          rs = [r] ∧ r.source = expected.map Bytes.ofString) ∧
        (rs.length ≠ 1 → onlyRecord log expected = .error (.count 1 rs.length)) ∧
        (∀ r, rs = [r] → r.source ≠ expected.map Bytes.ofString →
          onlyRecord log expected = .error (.source expected r.source)) ∧
        ∀ unmet, onlyRecord log expected = .error unmet →
          ∀ m, unmet.message ≠ (Unmet.unreadable m).message) ∧
      ∀ r, rs = [r] →
        (r.source = none → ∀ expected, onlyRecord log expected = .ok r ↔ expected = none) ∧
        ∀ source, r.source = some source → ¬ Utf8.IsText source →
          ∀ expected, onlyRecord log expected = .error (.source expected (some source))) ∧
    (∀ expected found, (Unmet.count expected found).message =
      "Expected " ++ toString expected ++ " records, got " ++ toString found) ∧
    (∀ expected found, (Unmet.source expected found).message =
      "Expected source " ++ Unmet.optional (expected.map Quoted.text) ++ ", got " ++
        Unmet.optional (found.map Quoted.fileName)) ∧
    ∀ log expected r, onlyRecord log expected = .ok r →
      Log.read log = .ok [r] ∧ ∀ text ∈ expected, text ≠ "None" ∧ '\n' ∉ text.toList := by
  refine ⟨fun rs complete => ?_, fun expected found => rfl,
    fun expected found => rfl, ?_⟩
  · intro log
    have success : Log.read log = .ok rs := Log.read_allToBytes complete
    have accepted (expected : Option String) (r : Record) : onlyRecord log expected = .ok r ↔
        rs = [r] ∧ r.source = expected.map Bytes.ofString := by
      rw [onlyRecord_eq_ok_iff, success, Except.ok.injEq]
    have refused (expected : Option String) (r : Record) (only : rs = [r])
        (other : r.source ≠ expected.map Bytes.ofString) :
        onlyRecord log expected = .error (.source expected r.source) :=
      onlyRecord_of_source (only ▸ success) other
    refine ⟨fun expected => ?_, fun expected => ⟨accepted expected,
      fun miscounted => onlyRecord_of_count success miscounted expected, refused expected, ?_⟩, ?_⟩
    · rw [records_of_read success]
      exact if_congr eq_comm rfl rfl
    · intro unmet told
      refine message_ne_unreadable ?_
      rintro m rfl
      exact onlyRecord_ne_unreadable success expected m told
    · intro r only
      constructor
      · intro sourceless expected
        rw [accepted, sourceless]
        cases expected <;> simp [only]
      · intro source named noText expected
        rw [← named]
        refine refused expected r only ?_
        rw [named]
        cases expected with
        | none => exact nofun
        | some text => exact fun same => noText ⟨text, Option.some.inj same⟩
  · intro log expected r accepted
    refine ⟨(onlyRecord_eq_ok_iff.mp accepted).1, ?_⟩
    rintro text rfl
    exact text_of_onlyRecord accepted

/-- A source that ends in half a character is accepted for no text, and is told of as it is. -/
theorem accepted_exactly_half_character :
    let r : Record := ⟨some [0x61, 0xC3], [0x63, 0x63]⟩
    r.Complete ∧ ¬ Utf8.IsText [0x61, 0xC3] ∧
      records (Record.allToBytes [r]) 1 = .ok [r] ∧
      onlyRecord (Record.allToBytes [r]) (some "a") =
        .error (.source (some "a") (some [0x61, 0xC3])) := by
  intro r
  have complete : r.Complete := by decide
  have noText : ¬ Utf8.IsText [0x61, 0xC3] := by decide
  obtain ⟨counted, -, sources⟩ :=
    accepted_exactly.1 [r] (List.forall_mem_singleton.mpr complete)
  exact ⟨complete, noText, counted 1, (sources r rfl).2 _ rfl noText (some "a")⟩

end Intercept.Expectation
