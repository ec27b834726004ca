import Intercept.Proofs.Trap
import Mathlib.Data.List.Forall2

/-!
# Failures stay where they are

An invocation logs its command and has it executed, and either may fail. This module says what comes
of every single invocation in a run of them, whichever of the two fail: what was asked so far, what
the log holds so far, the code, and what there is to tell. It then compares two runs that differ in
which appends fail.

Results:
1. `run_eq`: an invocation hands on the same outcome whatever the bench holds.
2. `code_outcome`, `events_outcome`: its code comes from the execution alone, and its events stand in
   the order of its steps.
3. `getElem?_runAll`: every invocation of a run, one by one.
4. `isolated_runAll`: all of this together, and the comparison of two runs.
-/

namespace Intercept.Trap

/-! ## Definitions -/

/-- Why a command could not be executed, if it could not. -/
def Execution.fault? (execution : Execution) : Option Fault :=
  match execution.result with
  | .ok _ => none
  | .error fault => some fault

/-- The code that an execution is reported by. -/
def Execution.code (execution : Execution) : Int :=
  match execution.result with
  | .ok code => code
  | .error _ => notExecutedCode

namespace Bench

/-- What comes of one invocation. What the bench holds is of no account to it (`run_eq`). -/
def outcome (host : Bytes) (invocation : Conditions × List Bytes) : Outcome :=
  (Trap.run (surroundings invocation.1) host invocation.2 {}).1

/-- Two invocations that differ at most in whether their append fails, and how. -/
structure SameButRefusal (first second : Conditions × List Bytes) : Prop where
  tokens : first.2 = second.2
  names : first.1.names = second.1.names
  execution : first.1.execution = second.1.execution

/-! ## One invocation -/

theorem run_eq (host : Bytes) (invocation : Conditions × List Bytes) (bench : Bench) :
    Trap.run (surroundings invocation.1) host invocation.2 bench =
      (outcome host invocation, next host invocation bench) := by
  obtain ⟨⟨names, refusal, execution⟩, tokens⟩ := invocation
  cases refusal <;> rfl

theorem code_outcome (host : Bytes) (invocation : Conditions × List Bytes) :
    (outcome host invocation).code = invocation.1.execution.code := by
  obtain ⟨⟨names, refusal, execution⟩, tokens⟩ := invocation
  unfold Execution.code
  cases refusal <;> cases result : execution.result <;>
    simp [outcome, Trap.run, begun, Begun.finish, surroundings, append, execute, result]

/-- The events of the tokens, of the append, of the execution and of its failure, in this order. -/
theorem events_outcome (host : Bytes) (invocation : Conditions × List Bytes) :
    (outcome host invocation).events =
      Invocation.told invocation.1.names invocation.2 ++
        (invocation.1.refusal.map Event.notLogged).toList ++
        invocation.1.execution.events ++
        (invocation.1.execution.fault?.map Event.notExecuted).toList := by
  obtain ⟨⟨names, refusal, execution⟩, tokens⟩ := invocation
  unfold Execution.fault?
  rw [← Invocation.events_assemble host]
  cases refusal <;> cases result : execution.result <;>
    simp [outcome, Trap.run, begun, Begun.finish, surroundings, append, execute, result]

/-! ## Several invocations -/

theorem runAll_cons (host : Bytes) (invocation : Conditions × List Bytes)
    (rest : List (Conditions × List Bytes)) (bench : Bench) :
    runAll host (invocation :: rest) bench =
      (outcome host invocation, next host invocation bench) ::
        runAll host rest (next host invocation bench) := by
  rw [← run_eq]
  rfl

theorem outcomes_runAll (host : Bytes) (invocations : List (Conditions × List Bytes))
    (bench : Bench) :
    (runAll host invocations bench).map Prod.fst = invocations.map (outcome host) := by
  induction invocations generalizing bench with
  | nil => rfl
  | cons invocation rest ih => rw [runAll_cons, List.map_cons, List.map_cons, ih]

/-- Every invocation of a run has the outcome that it has alone, and leaves the bench as the run up
to it does. -/
theorem getElem?_runAll (host : Bytes) (invocations : List (Conditions × List Bytes))
    (bench : Bench) (n : Nat) :
    (runAll host invocations bench)[n]? = invocations[n]?.map fun invocation =>
      (outcome host invocation, after host (invocations.take (n + 1)) bench) := by
  induction invocations generalizing bench n with
  | nil => rfl
  | cons invocation rest ih =>
      rw [runAll_cons, List.take_succ_cons, after_cons]
      cases n with
      | zero => rfl
      | succ n => exact ih (next host invocation bench) n

/-! ## Two runs that differ in which appends fail -/

/-- What does not hang on the append is the same all along the two runs. -/
theorem map_eq_map {α : Type} {f : Conditions × List Bytes → α}
    (alike : ∀ a b, SameButRefusal a b → f a = f b) {first second : List (Conditions × List Bytes)}
    (same : List.Forall₂ SameButRefusal first second) : first.map f = second.map f := by
  induction same with
  | nil => rfl
  | cons pair _ ih => rw [List.map_cons, List.map_cons, alike _ _ pair, ih]

theorem SameButRefusal.recordOf_eq {first second : Conditions × List Bytes}
    (same : SameButRefusal first second) (host : Bytes) :
    recordOf host first = recordOf host second := by
  rw [recordOf, recordOf, same.names, same.tokens]

theorem requests_after_eq {first second : List (Conditions × List Bytes)}
    (same : List.Forall₂ SameButRefusal first second) (host : Bytes) (bench : Bench) :
    (after host first bench).requests = (after host second bench).requests := by
  have alike : ∀ a b, SameButRefusal a b → requestsOf host a = requestsOf host b := by
    intro a b pair
    rw [requestsOf, requestsOf, pair.recordOf_eq]
  rw [requests_after, requests_after, List.flatMap_def, List.flatMap_def, map_eq_map alike same]

theorem codes_runAll_eq {first second : List (Conditions × List Bytes)}
    (same : List.Forall₂ SameButRefusal first second) (host : Bytes) (bench : Bench) :
    (runAll host first bench).map (·.1.code) = (runAll host second bench).map (·.1.code) := by
  have alike : ∀ a b, SameButRefusal a b → (outcome host a).code = (outcome host b).code := by
    intro a b pair
    rw [code_outcome, code_outcome, pair.execution]
  have codes : ∀ invocations, (runAll host invocations bench).map (·.1.code) =
      invocations.map fun invocation => (outcome host invocation).code := by
    intro invocations
    have outcomes := congrArg (List.map Outcome.code) (outcomes_runAll host invocations bench)
    rwa [List.map_map, List.map_map] at outcomes
  rw [codes, codes, map_eq_map alike same]

/-- Of two such runs the one in which more appends fail logs fewer of the records, in order. -/
theorem logged_sublist {first second : List (Conditions × List Bytes)}
    (same : List.Forall₂ SameButRefusal first second)
    (fewer : List.Forall₂ (fun a b => ¬ IsLogged a → ¬ IsLogged b) first second) (host : Bytes) :
    (logged host second).Sublist (logged host first) := by
  induction same with
  | nil => exact List.Sublist.refl _
  | @cons a b first second alike _ ih =>
      obtain ⟨kept, fewerRest⟩ := List.forall₂_cons.mp fewer
      rw [logged_cons host a, logged_cons host b]
      refine List.Sublist.append ?_ (ih fewerRest)
      by_cases isLogged : IsLogged b
      · have isLogged' : IsLogged a := not_imp_not.mp kept isLogged
        simp [logged, isLogged, isLogged', alike.recordOf_eq host]
      · simp [logged, isLogged]

/-- Any number of invocations, run one after the other on a bench with an empty log. After each of
them the bench was asked, for every invocation so far, to append its record and then to execute that
record's command, and the log holds the records whose append did not fail. The code is that of the
execution, or 127 where there was none, and the events are those of the tokens in their order, a
warning exactly if the append failed, those of the execution, and an error exactly if there was
none. So two runs that differ only in which appends fail give the same codes and ask for the same;
and the run in which more of them fail keeps some of the records of the other, in order. -/
theorem isolated_runAll (host : Bytes) (invocations : List (Conditions × List Bytes)) :
    (runAll host invocations {}).length = invocations.length ∧
    (∀ n (inside : n < invocations.length),
      let conditions := invocations[n].1
      let earlier := invocations.take (n + 1)
      ∃ outcome bench, (runAll host invocations {})[n]? = some (outcome, bench) ∧
        bench.requests = earlier.flatMap (fun invocation =>
          [.append (recordOf host invocation), .execute (recordOf host invocation).command]) ∧
        bench.log.contents =
          ((earlier.filter (·.1.refusal = none)).map (recordOf host)).flatMap Record.toBytes ∧
        (∀ code, conditions.execution.result = .ok code → outcome.code = code) ∧
        (∀ fault, conditions.execution.result = .error fault → outcome.code = 127) ∧
        outcome.events =
          Invocation.told conditions.names invocations[n].2 ++
            (conditions.refusal.map Event.notLogged).toList ++
            conditions.execution.events ++
            (conditions.execution.fault?.map Event.notExecuted).toList) ∧
    (∀ fault, (Event.notLogged fault).level = .warn ∧ (Event.notExecuted fault).level = .error) ∧
    ∀ others, List.Forall₂ SameButRefusal invocations others →
      (runAll host others {}).map (·.1.code) = (runAll host invocations {}).map (·.1.code) ∧
      (after host others {}).requests = (after host invocations {}).requests ∧
      (List.Forall₂ (fun a b => a.1.refusal ≠ none → b.1.refusal ≠ none) invocations others →
        (after host others {}).log.records.Sublist (after host invocations {}).log.records) := by
  refine ⟨?_, ?_, fun fault => ⟨rfl, rfl⟩, ?_⟩
  · have outcomes := congrArg List.length (outcomes_runAll host invocations {})
    rwa [List.length_map, List.length_map] at outcomes
  · intro n inside conditions earlier
    refine ⟨outcome host invocations[n], after host earlier {}, ?_, ?_, ?_, ?_, ?_, ?_⟩
    · rw [getElem?_runAll, List.getElem?_eq_getElem inside]
      rfl
    · exact requests_after host earlier {}
    · exact contents_after host earlier
    · intro code result
      rw [code_outcome, Execution.code, result]
    · intro fault result
      rw [code_outcome, Execution.code, result]
      rfl
    · exact events_outcome host invocations[n]
  · intro others same
    refine ⟨?_, ?_, fun fewer => ?_⟩
    · exact (codes_runAll_eq same host {}).symm
    · exact (requests_after_eq same host {}).symm
    · rw [records_after, records_after]
      exact logged_sublist same fewer host

/-- Three invocations, the second of which cannot be executed. Where the first append fails, the log
is carried on from the second one; where the second one fails as well, for whatever reason, the codes
and the requests stay as they are, and one record less is kept. -/
theorem isolated_runAll_three :
    let conditions (result : Except Fault Int) (refusal : Option Fault) : Conditions :=
      { names := fun _ => true, refusal, execution := ⟨[], result⟩ }
    let spawn : Except Fault Int := .error (.spawn "sh" (.numbered .noSuchFile))
    let noSpace : Option Fault := some (.file (.numbered .noSpace))
    let denied : Option Fault := some (.file (.numbered .permissionDenied))
    let tokens (letter : UInt8) : List Bytes := [[letter, 0x2E, 0x63]]
    let record (letter : UInt8) : Record :=
      ⟨some [letter, 0x2E, 0x63], [0x63, 0x63, 0x20, letter, 0x2E, 0x63, 0x20]⟩
    let requests (letter : UInt8) : List Request :=
      [.append (record letter), .execute (record letter).command]
    let host : Bytes := [0x63, 0x63]
    let first := [(conditions (.ok 0) noSpace, tokens 0x61), (conditions spawn none, tokens 0x62),
      (conditions (.ok 3) none, tokens 0x63)]
    let second := [(conditions (.ok 0) denied, tokens 0x61), (conditions spawn noSpace, tokens 0x62),
      (conditions (.ok 3) none, tokens 0x63)]
    List.Forall₂ SameButRefusal first second ∧
      List.Forall₂ (fun a b => a.1.refusal ≠ none → b.1.refusal ≠ none) first second ∧
      (∃ outcome bench, (runAll host first {})[2]? = some (outcome, bench) ∧ outcome.code = 3 ∧
        bench.log.contents = (record 0x62).toBytes ++ (record 0x63).toBytes) ∧
      (runAll host second {}).map (·.1.code) = [0, 127, 3] ∧
      (after host second {}).requests = requests 0x61 ++ requests 0x62 ++ requests 0x63 ∧
      (after host second {}).log.records.Sublist [record 0x62, record 0x63] := by
  intro conditions spawn noSpace denied tokens record requests host first second
  have same : List.Forall₂ SameButRefusal first second :=
    .cons ⟨rfl, rfl, rfl⟩ (.cons ⟨rfl, rfl, rfl⟩ (.cons ⟨rfl, rfl, rfl⟩ .nil))
  have fewer : List.Forall₂ (fun a b => a.1.refusal ≠ none → b.1.refusal ≠ none) first second :=
    .cons (fun _ => nofun) (.cons (fun _ => nofun) (.cons id .nil))
  have codes : (runAll host first {}).map (·.1.code) = [0, 127, 3] := rfl
  have asked : (after host first {}).requests =
      requests 0x61 ++ requests 0x62 ++ requests 0x63 := rfl
  obtain ⟨-, each, -, alike⟩ := isolated_runAll host first
  obtain ⟨outcome, bench, reached, -, contents, code, -⟩ := each 2 (by decide)
  obtain ⟨sameCodes, sameRequests, fewerRecords⟩ := alike second same
  refine ⟨same, fewer, ⟨outcome, bench, reached, code 3 rfl, contents.trans ?_⟩,
    sameCodes.trans codes, sameRequests.trans asked, fewerRecords fewer⟩
  decide

end Bench

end Intercept.Trap
