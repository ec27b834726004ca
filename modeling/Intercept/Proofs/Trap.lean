import Intercept.Proofs.Invocation
import Intercept.Trap

/-!
# Invocations on a bench

A bench notes every request of the invocations that run on it, one after the other, and keeps the
records whose append does not fail. This module says what one invocation leaves on a bench, and from
that what any number of them leaves, whichever appends fail and whatever the executions come to.

Results:
1. `requests_after`: each invocation asks for its record to be appended and for the command of that
   record to be executed, and for nothing else.
2. `records_after`: the log holds the records of the invocations whose append did not fail.
3. `read_after_iff`: the log is read back as these records, unless a newline got into one of them.
-/

namespace Intercept.Trap.Bench

/-! ## Definitions -/

/-- The record that an invocation is logged as. -/
def recordOf (host : Bytes) (invocation : Conditions × List Bytes) : Record :=
  Invocation.record host invocation.1.names invocation.2

/-- What an invocation asks of its world, in order. -/
def requestsOf (host : Bytes) (invocation : Conditions × List Bytes) : List Request :=
  [.append (recordOf host invocation), .execute (recordOf host invocation).command]

/-- An invocation whose append does not fail. -/
def IsLogged (invocation : Conditions × List Bytes) : Prop := invocation.1.refusal = none

instance (invocation : Conditions × List Bytes) : Decidable (IsLogged invocation) :=
  inferInstanceAs (Decidable (_ = none))

/-- The records of the invocations whose append does not fail. -/
def logged (host : Bytes) (invocations : List (Conditions × List Bytes)) : List Record :=
  (invocations.filter (IsLogged ·)).map (recordOf host)

/-- The bench behind the last of several invocations. -/
def after (host : Bytes) (invocations : List (Conditions × List Bytes)) (bench : Bench) : Bench :=
  ((runAll host invocations bench).getLast?.map Prod.snd).getD bench

/-! ## One invocation -/

/-- The bench behind one invocation. -/
def next (host : Bytes) (invocation : Conditions × List Bytes) (bench : Bench) : Bench :=
  (Trap.run (surroundings invocation.1) host invocation.2 bench).2

theorem requests_next (host : Bytes) (invocation : Conditions × List Bytes) (bench : Bench) :
    (next host invocation bench).requests = bench.requests ++ requestsOf host invocation := by
  obtain ⟨⟨names, refusal, execution⟩, tokens⟩ := invocation
  cases refusal <;>
    simp [next, Trap.run, begun, Begun.finish, surroundings, append, execute, requestsOf, recordOf,
      Invocation.record]

theorem records_next (host : Bytes) (invocation : Conditions × List Bytes) (bench : Bench) :
    (next host invocation bench).log.records =
      bench.log.records ++ logged host [invocation] := by
  obtain ⟨⟨names, refusal, execution⟩, tokens⟩ := invocation
  cases refusal with
  | none =>
      simp [next, Trap.run, begun, Begun.finish, surroundings, append, execute, MemoryLog.append,
        logged, IsLogged, recordOf, Invocation.record]
  | some fault =>
      simp [next, Trap.run, begun, Begun.finish, surroundings, append, execute, logged, IsLogged]

/-! ## Several invocations -/

theorem after_cons (host : Bytes) (invocation : Conditions × List Bytes)
    (rest : List (Conditions × List Bytes)) (bench : Bench) :
    after host (invocation :: rest) bench = after host rest (next host invocation bench) := by
  have step : runAll host (invocation :: rest) bench =
      ((Trap.run (surroundings invocation.1) host invocation.2 bench).1,
        next host invocation bench) :: runAll host rest (next host invocation bench) := rfl
  unfold after
  rw [step, List.getLast?_cons]
  cases (runAll host rest (next host invocation bench)).getLast? <;> rfl

theorem requests_after (host : Bytes) (invocations : List (Conditions × List Bytes))
    (bench : Bench) :
    (after host invocations bench).requests =
      bench.requests ++ invocations.flatMap (requestsOf host) := by
  induction invocations generalizing bench with
  | nil => exact (List.append_nil _).symm
  | cons invocation rest ih =>
      rw [after_cons, ih, requests_next, List.flatMap_cons, List.append_assoc]

theorem logged_cons (host : Bytes) (invocation : Conditions × List Bytes)
    (rest : List (Conditions × List Bytes)) :
    logged host (invocation :: rest) = logged host [invocation] ++ logged host rest := by
  unfold logged
  rw [← List.map_append, ← List.filter_append, List.singleton_append]

theorem records_after (host : Bytes) (invocations : List (Conditions × List Bytes))
    (bench : Bench) :
    (after host invocations bench).log.records =
      bench.log.records ++ logged host invocations := by
  induction invocations generalizing bench with
  | nil => exact (List.append_nil _).symm
  | cons invocation rest ih =>
      rw [after_cons, ih, records_next, logged_cons host invocation rest, List.append_assoc]

/-- On a bench with an empty log the log is that of the records. -/
theorem contents_after (host : Bytes) (invocations : List (Conditions × List Bytes)) :
    (after host invocations {}).log.contents = Record.allToBytes (logged host invocations) := by
  rw [MemoryLog.contents, records_after]
  rfl

/-! ## Reading the log back -/

theorem mem_logged {host : Bytes} {invocations : List (Conditions × List Bytes)} {r : Record} :
    r ∈ logged host invocations ↔
      ∃ invocation ∈ invocations, IsLogged invocation ∧ recordOf host invocation = r := by
  simp [logged, and_assoc]

/-- Invocations without a newline are logged as complete records. -/
theorem complete_of_mem_logged {host : Bytes} {invocations : List (Conditions × List Bytes)}
    (plain : ∀ invocation ∈ invocations, IsLogged invocation →
      Bytes.newline ∉ host ∧ ∀ token ∈ invocation.2, Bytes.newline ∉ token) :
    ∀ r ∈ logged host invocations, r.Complete := by
  intro r member
  obtain ⟨invocation, inRun, isLogged, rfl⟩ := mem_logged.mp member
  exact Invocation.complete_record_iff.mpr (plain invocation inRun isLogged)

/-- No newline is logged unless it comes from the host or from a token. -/
theorem plain_of_readable {host : Bytes} {invocations : List (Conditions × List Bytes)}
    (readable : ∀ r ∈ logged host invocations, r.Readable) :
    ∀ invocation ∈ invocations, IsLogged invocation →
      Bytes.newline ∉ host ∧ ∀ token ∈ invocation.2, Bytes.newline ∉ token := by
  intro invocation member isLogged
  have inLog : recordOf host invocation ∈ logged host invocations :=
    mem_logged.mpr ⟨invocation, member, isLogged, rfl⟩
  exact Invocation.complete_record_iff.mp
    ⟨readable _ inLog, Invocation.command_ne_nil host invocation.1.names invocation.2⟩

/-- Any number of invocations, run one after the other on a bench with an empty log: each one asks
for its record to be appended and for the record's own command to be executed, and reading the log
gives back the records of those whose append did not fail, in order, exactly if there are none or
neither the host nor a token of theirs holds a newline. No record names the word for no source as
its source, and none has an empty command. -/
theorem read_after_iff (host : Bytes) (invocations : List (Conditions × List Bytes)) :
    let bench := after host invocations {}
    let records := logged host invocations
    bench.requests = invocations.flatMap (requestsOf host) ∧
    (Log.read bench.log.contents = .ok records ↔
      records = [] ∨ Bytes.newline ∉ host ∧
        ∀ invocation ∈ invocations, IsLogged invocation →
          ∀ token ∈ invocation.2, Bytes.newline ∉ token) ∧
    ∀ r ∈ records, r.source ≠ some Record.absent ∧ r.command ≠ [] := by
  intro bench records
  have contents : bench.log.contents = Record.allToBytes records :=
    contents_after host invocations
  refine ⟨requests_after host invocations {}, ?_, ?_⟩
  · rw [contents]
    constructor
    · intro success
      refine or_iff_not_imp_left.mpr fun nonempty => ?_
      have plain := plain_of_readable (Log.readable_of_read success)
      -- The host is only known to be free of newlines through an invocation that was logged.
      obtain ⟨first, others, cut⟩ := List.exists_cons_of_ne_nil nonempty
      have inLog : first ∈ records := cut ▸ List.mem_cons_self
      obtain ⟨invocation, member, isLogged, -⟩ := mem_logged.mp inLog
      exact ⟨(plain invocation member isLogged).1,
        fun invocation member isLogged => (plain invocation member isLogged).2⟩
    · rintro (nothing | ⟨plainHost, plainTokens⟩)
      · rw [nothing]
        rfl
      · exact Log.read_allToBytes (complete_of_mem_logged fun invocation member isLogged =>
          ⟨plainHost, plainTokens invocation member isLogged⟩)
  · intro r member
    obtain ⟨invocation, -, -, rfl⟩ := mem_logged.mp member
    exact ⟨Invocation.source_ne_absent host _ _, Invocation.command_ne_nil host _ _⟩

end Intercept.Trap.Bench
