import Intercept.EventLog
import Intercept.Proofs.Trap.Isolation

/-!
# What is shown of events

A filter goes over its directives once and keeps the one that decides so far. What decides on an
event in the end is one of the directives about it, so that nothing is shown where there is none.
The filter up to a level shows what is no less grave; with the one up to warnings an invocation of
the trap tells of its failures and of nothing else.

Results:
1. `deciding_concat`, `mem_of_deciding`, `deciding_eq_none_iff`: the directive that decides.
2. `shows_upTo_iff`, `filter_upTo_sublist`: filters up to a level.
3. `filter_upTo_warn`: what is shown of an invocation.
-/

namespace Intercept.EventLog

/-! ## The directive that decides -/

/-- One more directive decides if it is about the event and the one that decided before yields to
it. -/
theorem deciding_concat (filter : Filter) (d : Directive) (event : Event) :
    Filter.deciding (filter ++ [d]) event =
      if d.isAbout event then
        match filter.deciding event with
        | none => some d
        | some best => if best.yieldsTo d then some d else some best
      else filter.deciding event := by
  unfold Filter.deciding
  rw [List.filter_append, List.foldl_append]
  by_cases about : d.isAbout event
  · have own : [d].filter (·.isAbout event) = [d] := by simp [about]
    rw [if_pos about, own]
    rfl
  · have own : [d].filter (·.isAbout event) = [] := by simp [about]
    rw [if_neg about, own]
    rfl

/-- What decides on an event is one of the directives that are about it. -/
theorem mem_of_deciding {filter : Filter} {event : Event} {d : Directive}
    (decides : filter.deciding event = some d) : d ∈ filter ∧ d.isAbout event := by
  -- Directives are taken from the first to the last, so the induction goes from the right.
  induction filter using List.reverseRecOn generalizing d with
  | nil => exact nomatch decides
  | append_singleton filter last ih =>
      rw [deciding_concat] at decides
      have later : Filter.deciding filter event = some d →
          d ∈ filter ++ [last] ∧ d.isAbout event :=
        fun before => ⟨List.mem_append_left _ (ih before).1, (ih before).2⟩
      split at decides
      · next about =>
        have own : last = d → d ∈ filter ++ [last] ∧ d.isAbout event := by
          rintro rfl
          exact ⟨List.mem_concat_self, about⟩
        split at decides
        · exact own (Option.some.inj decides)
        · next best before =>
          split at decides
          · exact own (Option.some.inj decides)
          · exact later (before.trans decides)
      · exact later decides

theorem deciding_eq_none_iff (filter : Filter) (event : Event) :
    filter.deciding event = none ↔ ∀ d ∈ filter, ¬ d.isAbout event := by
  induction filter using List.reverseRecOn with
  | nil => simp [Filter.deciding]
  | append_singleton filter last ih =>
      rw [deciding_concat, List.forall_mem_append, ← ih, List.forall_mem_singleton]
      by_cases about : last.isAbout event
      · rw [if_pos about]
        cases Filter.deciding filter event with
        | none => simp [about]
        | some best => by_cases yields : best.yieldsTo last <;> simp [about, yields]
      · simp [about]

/-- An event is shown only where a directive is about it. -/
theorem exists_about_of_shows {filter : Filter} {event : Event} (shown : filter.shows event) :
    ∃ d ∈ filter, d.isAbout event ∧ ∃ most, d.threshold = some most ∧
      event.level.rank ≤ most.rank := by
  unfold Filter.shows at shown
  split at shown
  · exact nomatch shown
  · next most reached =>
    obtain ⟨d, decides, threshold⟩ := Option.bind_eq_some_iff.mp reached
    obtain ⟨member, about⟩ := mem_of_deciding decides
    exact ⟨d, member, about, most, threshold, of_decide_eq_true shown⟩

/-- Without directives nothing is shown. -/
theorem lines_nil (events : List Event) : lines [] events = "" := by
  have hidden : events.filter (Filter.shows []) = [] :=
    List.filter_eq_nil_iff.mpr fun event _ shown => by
      obtain ⟨d, member, -⟩ := exists_about_of_shows shown
      exact nomatch member
  rw [lines, hidden]
  rfl

/-! ## Filters up to a level -/

/-- The filter up to a level shows what is no less grave. -/
theorem shows_upTo_iff (level : Level) (event : Event) :
    (Filter.upTo level).shows event ↔ event.level.rank ≤ level.rank :=
  decide_eq_true_iff

/-- With a level that is less grave more is shown, in the same order. -/
theorem filter_upTo_sublist {level more : Level} (le : level.rank ≤ more.rank)
    (events : List Event) :
    (events.filter (Filter.upTo level).shows).Sublist (events.filter (Filter.upTo more).shows) :=
  List.monotone_filter_right events fun event shown =>
    (shows_upTo_iff more event).mpr (((shows_upTo_iff level event).mp shown).trans le)

/-- The name of a level is the text of its directive. -/
theorem ofText_name (level : Level) : Directive.ofText level.name = .ok (.plain (some level)) := by
  cases level <;> decide +kernel

/-! ## What is shown of an invocation -/

theorem level_of_mem_requotings {tokens : List Bytes} {event : Event}
    (member : event ∈ tokens.filterMap Invocation.requoting?) : event.level = .debug := by
  obtain ⟨token, -, requoting⟩ := List.mem_filterMap.mp member
  obtain ⟨written, -, rfl⟩ := Option.map_eq_some_iff.mp requoting
  rfl

theorem level_of_mem_told {names : Bytes → Bool} {tokens : List Bytes} {event : Event}
    (member : event ∈ Invocation.told names tokens) : event.level = .debug := by
  unfold Invocation.told at member
  rcases List.mem_append.mp member with before | behind
  · exact level_of_mem_requotings before
  · cases left : tokens.dropWhile (!Invocation.isSource names ·) with
    | nil =>
        rw [left] at behind
        exact absurd behind List.not_mem_nil
    | cons source rest =>
        rw [left] at behind
        rcases List.mem_cons.mp behind with rfl | later
        · rfl
        · exact level_of_mem_requotings later

/-- What is told of an interpreter is no warning. -/
theorem lt_rank_of_mem_byInterpreter {program : String} {command : Bytes}
    {ended : Except Cause WaitStatus} {event : Event}
    (member : event ∈ (Trap.Execution.byInterpreter program command ended).events) :
    Level.warn.rank < event.level.rank := by
  cases ended with
  | error cause =>
      rw [List.mem_singleton.mp member]
      exact Nat.lt_succ_self 1
  | ok status =>
      rcases List.mem_pair.mp member with rfl | rfl
      · exact Nat.lt_succ_self 1
      · exact Nat.lt_add_of_pos_right (Nat.zero_lt_two)

/-- Up to warnings nothing is shown of an invocation but that its record could not be logged, and
that its command could not be executed. So nothing is shown where neither has happened. -/
theorem filter_upTo_warn (host : Bytes) (invocation : Trap.Conditions × List Bytes)
    (quiet : ∀ event ∈ invocation.1.execution.events, Level.warn.rank < event.level.rank) :
    (Trap.Bench.outcome host invocation).events.filter (Filter.upTo .warn).shows =
      (invocation.1.refusal.map Event.notLogged).toList ++
        (invocation.1.execution.fault?.map Event.notExecuted).toList := by
  have hidden {events : List Event}
      (graver : ∀ event ∈ events, Level.warn.rank < event.level.rank) :
      events.filter (Filter.upTo .warn).shows = [] :=
    List.filter_eq_nil_iff.mpr fun event member shown =>
      Nat.not_lt.mpr ((shows_upTo_iff .warn event).mp shown) (graver event member)
  have told : (Invocation.told invocation.1.names invocation.2).filter
      (Filter.upTo .warn).shows = [] := by
    refine hidden fun event member => ?_
    rw [level_of_mem_told member]
    exact Nat.lt_add_of_pos_right (Nat.zero_lt_two)
  have refused : (invocation.1.refusal.map Event.notLogged).toList.filter
      (Filter.upTo .warn).shows = (invocation.1.refusal.map Event.notLogged).toList := by
    cases invocation.1.refusal <;> rfl
  have failed : (invocation.1.execution.fault?.map Event.notExecuted).toList.filter
      (Filter.upTo .warn).shows =
        (invocation.1.execution.fault?.map Event.notExecuted).toList := by
    cases invocation.1.execution.fault? <;> rfl
  rw [Trap.Bench.events_outcome, List.filter_append, List.filter_append, List.filter_append, told,
    refused, hidden quiet, failed, List.nil_append, List.append_nil]

end Intercept.EventLog
