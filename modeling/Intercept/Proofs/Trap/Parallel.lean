import Intercept.Proofs.Inspector
import Intercept.Proofs.Trap
import Mathlib.Data.List.Perm.Lattice
import Mathlib.Logic.Function.Basic

/-!
# Traps that share a log

The compilers of a build run side by side, and every trap appends to the same file. Each append is
taken to be one step: it writes the whole record at the end of the file as it then is, or it fails
and leaves the file alone. Between the append and the end of the command that a trap has executed,
other traps take their turns. A sequence of turns says which process goes on when, so that what
holds for all sequences holds for every interleaving, and in every state on the way.

A turn is one of the two halves of an invocation of the trap, as it is run alone.

Results:
1. `turn_cases`: what one turn does.
2. `Course.turn`, `course_run`: the invariant of one turn and of any number of them. The file is the
   one that the invocations would have left one after the other, in the order of their appends, and
   every invocation comes to what it would have come to alone.
3. `perm_of_doneBy_eq`: what is done by all processes is known, up to order, from each of them.
4. `read_file_run`: the log is read as what was in it before and the records that were appended, in
   the order in which they were; each process finds its own there in its own order.
-/

namespace Intercept.Trap.Parallel

open Bench (recordOf logged IsLogged)

/-! ## Definitions -/

/-- A file that is shared, as the world of one invocation. Whether the append fails is one of its
conditions, and the command that is executed leaves the file alone. -/
def sharedFile (conditions : Conditions) : Surroundings Bytes :=
  { names := fun _ => conditions.names
    append := fun r file => match conditions.refusal with
      | some fault => (.error fault, file)
      | none => (.ok (), file ++ r.toBytes)
    execute := fun _ file => (conditions.execution, file) }

/-- An invocation, with the process that it belongs to. -/
abbrev Entry (ι : Type) := ι × Conditions × List Bytes

/-- A build in the course of its work: the shared file, the invocation of each process that has come
to its append and not to its end, if there is one, the invocations that each process has yet to come
to, the invocations so far that have come to their append, and the outcomes of those that have come
to their end, with their processes, first to last. -/
structure State (ι : Type) where
  file : Bytes
  executing : ι → Option (Conditions × Begun)
  waiting : ι → List (Conditions × List Bytes)
  done : List (Entry ι)
  ended : List (ι × Outcome)

/-- A build that is about to begin. -/
def State.start {ι : Type} (file : Bytes) (invocations : ι → List (Conditions × List Bytes)) :
    State ι :=
  { file, executing := fun _ => none, waiting := invocations, done := [], ended := [] }

variable {ι : Type} [DecidableEq ι] (hosts : ι → Bytes)

/-- The turn of a process: the second half of the invocation that it has begun, or else the first
half of its next one. -/
def State.turn (state : State ι) (i : ι) : State ι :=
  match state.executing i, state.waiting i with
  | some (conditions, begun), _ =>
    let (outcome, file) := begun.finish (sharedFile conditions) state.file
    { state with
      file
      executing := Function.update state.executing i none
      ended := state.ended ++ [(i, outcome)] }
  | none, [] => state
  | none, invocation :: rest =>
    let (begun, file) :=
      Trap.begun (sharedFile invocation.1) (hosts i) invocation.2 state.file
    { state with
      file
      executing := Function.update state.executing i (some (invocation.1, begun))
      waiting := Function.update state.waiting i rest
      done := state.done ++ [(i, invocation)] }

/-- A build after some turns. -/
def State.run (state : State ι) (turns : List ι) : State ι := turns.foldl (State.turn hosts) state

/-- What one process has done. -/
def doneBy (done : List (Entry ι)) (i : ι) : List (Conditions × List Bytes) :=
  (done.filter (·.1 = i)).map Prod.snd

/-- What the invocations of one process have come to. -/
def endedBy (ended : List (ι × Outcome)) (i : ι) : List Outcome :=
  (ended.filter (·.1 = i)).map Prod.snd

/-- The records that did not fail to be appended, with their processes. -/
def kept (done : List (Entry ι)) : List (ι × Record) :=
  (done.filter (IsLogged ·.2)).map fun entry => (entry.1, recordOf (hosts entry.1) entry.2)

/-- The file after invocations that are run whole, one after the other. -/
def inOrder (done : List (Entry ι)) (file : Bytes) : Bytes :=
  done.foldl (fun file (i, conditions, tokens) =>
    (Trap.run (sharedFile conditions) (hosts i) tokens file).2) file

/-- What an invocation comes to that is run alone. -/
def alone (host : Bytes) (invocation : Conditions × List Bytes) : Outcome :=
  (Trap.run (sharedFile invocation.1) host invocation.2 []).1

/-- What an invocation that has begun will come to. -/
def due (executing : Option (Conditions × Begun)) : List Outcome :=
  executing.toList.map fun (conditions, begun) => (begun.finish (sharedFile conditions) []).1

/-- What holds of a build all along: each process has done the first of its invocations, these have
come or will come to what they come to alone, and the file is the one that they would have left one
after the other. -/
structure Course (file : Bytes) (invocations : ι → List (Conditions × List Bytes))
    (state : State ι) : Prop where
  waiting : ∀ i, doneBy state.done i ++ state.waiting i = invocations i
  outcomes : ∀ i, endedBy state.ended i ++ due (state.executing i) =
    (doneBy state.done i).map (alone (hosts i))
  file : state.file = inOrder hosts state.done file

/-! ## The halves of an invocation -/

/-- The first half of an invocation appends its record, unless that fails. -/
theorem file_begun (host : Bytes) (invocation : Conditions × List Bytes) (file : Bytes) :
    (Trap.begun (sharedFile invocation.1) host invocation.2 file).2 =
      if IsLogged invocation then file ++ (recordOf host invocation).toBytes else file := by
  obtain ⟨⟨names, refusal, execution⟩, tokens⟩ := invocation
  cases refusal <;> rfl

/-- What is begun does not hang on the file. -/
theorem begun_sharedFile (host : Bytes) (invocation : Conditions × List Bytes) (file : Bytes) :
    (Trap.begun (sharedFile invocation.1) host invocation.2 file).1 =
      (Trap.begun (sharedFile invocation.1) host invocation.2 []).1 := by
  obtain ⟨⟨names, refusal, execution⟩, tokens⟩ := invocation
  cases refusal <;> rfl

/-- An invocation that is run whole does to the file what its first half does. -/
theorem file_run (host : Bytes) (invocation : Conditions × List Bytes) (file : Bytes) :
    (Trap.run (sharedFile invocation.1) host invocation.2 file).2 =
      (Trap.begun (sharedFile invocation.1) host invocation.2 file).2 := rfl

/-- What a first half leads to, whatever is in the file. -/
theorem due_begun (host : Bytes) (invocation : Conditions × List Bytes) (file : Bytes) :
    due (some (invocation.1,
      (Trap.begun (sharedFile invocation.1) host invocation.2 file).1)) =
      [alone host invocation] := by
  rw [begun_sharedFile]
  rfl

/-! ## One turn -/

/-- A turn ends an invocation that has begun, begins the next one, or does nothing. -/
theorem turn_cases (state : State ι) (i : ι) :
    (∃ conditions begun, state.executing i = some (conditions, begun) ∧
      state.turn hosts i =
        { state with
          executing := Function.update state.executing i none
          ended := state.ended ++ [(i, (begun.finish (sharedFile conditions) []).1)] }) ∨
    (∃ invocation rest, state.executing i = none ∧ state.waiting i = invocation :: rest ∧
      state.turn hosts i =
        { state with
          file := (Trap.run (sharedFile invocation.1) (hosts i) invocation.2 state.file).2
          executing := Function.update state.executing i (some (invocation.1,
            (Trap.begun (sharedFile invocation.1) (hosts i) invocation.2 state.file).1))
          waiting := Function.update state.waiting i rest
          done := state.done ++ [(i, invocation)] }) ∨
    state.turn hosts i = state := by
  unfold State.turn
  cases busy : state.executing i with
  | some begun => exact Or.inl ⟨begun.1, begun.2, rfl, rfl⟩
  | none =>
      cases left : state.waiting i with
      | nil => exact Or.inr (Or.inr rfl)
      | cons invocation rest => exact Or.inr (Or.inl ⟨invocation, rest, rfl, rfl, rfl⟩)

variable {hosts}

/-! ## The invariant -/

theorem doneBy_concat (done : List (Entry ι)) (entry : Entry ι) (i : ι) :
    doneBy (done ++ [entry]) i = doneBy done i ++ if entry.1 = i then [entry.2] else [] := by
  unfold doneBy
  by_cases own : entry.1 = i <;> simp [List.filter_append, own]

theorem endedBy_concat (ended : List (ι × Outcome)) (i j : ι) (outcome : Outcome) :
    endedBy (ended ++ [(i, outcome)]) j = endedBy ended j ++ if i = j then [outcome] else [] := by
  unfold endedBy
  by_cases own : i = j <;> simp [List.filter_append, own]

omit [DecidableEq ι] in
theorem kept_concat (done : List (Entry ι)) (entry : Entry ι) :
    kept hosts (done ++ [entry]) =
      kept hosts done ++
        if IsLogged entry.2 then [(entry.1, recordOf (hosts entry.1) entry.2)] else [] := by
  unfold kept
  by_cases isLogged : IsLogged entry.2 <;> simp [List.filter_append, isLogged]

omit [DecidableEq ι] in
theorem inOrder_concat (done : List (Entry ι)) (i : ι) (invocation : Conditions × List Bytes)
    (file : Bytes) :
    inOrder hosts (done ++ [(i, invocation)]) file =
      (Trap.run (sharedFile invocation.1) (hosts i) invocation.2 (inOrder hosts done file)).2 :=
  List.foldl_concat _ _ _ _

omit [DecidableEq ι] in
/-- One after the other, the invocations append the records that are kept. -/
theorem inOrder_eq (done : List (Entry ι)) (file : Bytes) :
    inOrder hosts done file = file ++ Record.allToBytes ((kept hosts done).map Prod.snd) := by
  -- What is done is added at the end, so the induction goes from there.
  induction done using List.reverseRecOn with
  | nil => exact (List.append_nil file).symm
  | append_singleton done entry ih =>
      obtain ⟨i, invocation⟩ := entry
      rw [inOrder_concat, file_run, file_begun, ih, kept_concat]
      by_cases isLogged : IsLogged invocation
      · simp [isLogged, Record.allToBytes_append, Record.allToBytes_singleton]
      · simp [isLogged]

theorem course_start (file : Bytes) (invocations : ι → List (Conditions × List Bytes)) :
    Course hosts file invocations (State.start file invocations) where
  waiting := fun _ => rfl
  outcomes := fun _ => rfl
  file := rfl

theorem Course.turn {file : Bytes} {invocations : ι → List (Conditions × List Bytes)}
    {state : State ι} (h : Course hosts file invocations state) (i : ι) :
    Course hosts file invocations (state.turn hosts i) := by
  rcases turn_cases hosts state i with
    ⟨conditions, begun, busy, after⟩ | ⟨invocation, rest, idle, next, after⟩ | after
  · rw [after]
    refine ⟨h.waiting, ?_, h.file⟩
    -- The outcome goes over from those that are due to those that have come.
    intro j
    rw [← h.outcomes j, endedBy_concat]
    by_cases own : i = j
    · subst own
      simp [busy, due]
    · simp [own, Function.update_of_ne (Ne.symm own)]
  · rw [after]
    refine ⟨?_, ?_, ?_⟩
    -- The invocation goes over from those to come to those done, for its own process alone.
    · intro j
      rw [← h.waiting j, doneBy_concat]
      by_cases own : i = j
      · subst own
        simp [next]
      · simp [own, Function.update_of_ne (Ne.symm own)]
    · intro j
      have outcomes := h.outcomes j
      rw [doneBy_concat]
      by_cases own : i = j
      · subst own
        rw [idle, due, Option.toList_none, List.map_nil, List.append_nil] at outcomes
        rw [if_pos rfl, List.map_append, ← outcomes]
        show endedBy state.ended i ++ due (Function.update state.executing i _ i) = _
        rw [Function.update_self, due_begun]
        rfl
      · simp [own, outcomes, Function.update_of_ne (Ne.symm own)]
    · rw [inOrder_concat, ← h.file]
  · rwa [after]

theorem course_run {file : Bytes} {invocations : ι → List (Conditions × List Bytes)}
    {state : State ι} (h : Course hosts file invocations state) (turns : List ι) :
    Course hosts file invocations (state.run hosts turns) := by
  induction turns generalizing state with
  | nil => exact h
  | cons i rest ih => exact ih (h.turn i)

/-! ## What one process finds of its own -/

/-- The records that one process kept are those that it would have logged alone. -/
theorem filter_kept (done : List (Entry ι)) (i : ι) :
    ((kept hosts done).filter (·.1 = i)).map Prod.snd = logged (hosts i) (doneBy done i) := by
  -- What is done is added at the end, so the induction goes from there.
  induction done using List.reverseRecOn with
  | nil => rfl
  | append_singleton done entry ih =>
      have parts : ∀ front back : List (Conditions × List Bytes),
          logged (hosts i) (front ++ back) = logged (hosts i) front ++ logged (hosts i) back := by
        intro front back
        rw [logged, List.filter_append, List.map_append]
        rfl
      rw [kept_concat, doneBy_concat, List.filter_append, List.map_append, ih, parts]
      by_cases own : entry.1 = i
      · by_cases isLogged : IsLogged entry.2 <;> simp [own, isLogged, logged]
      · by_cases isLogged : IsLogged entry.2 <;> simp [own, isLogged, logged]

theorem filter_eq_map_doneBy (done : List (Entry ι)) (i : ι) :
    done.filter (·.1 = i) = (doneBy done i).map (Prod.mk i) := by
  unfold doneBy
  rw [List.map_map]
  refine (List.map_id _).symm.trans (List.map_congr_left fun entry member => ?_)
  have own : entry.1 = i := by simpa using (List.mem_filter.mp member).2
  rw [Function.comp_apply, ← own]
  rfl

/-- If every process has done the same in two courses of a build, the same has been done. -/
theorem perm_of_doneBy_eq {first second : List (Entry ι)}
    (same : ∀ i, doneBy first i = doneBy second i) : first.Perm second := by
  -- Conditions hold a function, so that entries are told apart only classically.
  classical
  rw [List.perm_iff_count]
  intro entry
  have own : ∀ done : List (Entry ι), done.count entry = (done.filter (·.1 = entry.1)).count entry :=
    fun done => (List.count_filter (by simp)).symm
  rw [own first, own second, filter_eq_map_doneBy, filter_eq_map_doneBy, same]

/-- Two courses of one build in which every process has got as far have kept the same records. -/
theorem Course.kept_perm {file : Bytes} {invocations : ι → List (Conditions × List Bytes)}
    {first second : State ι} (h : Course hosts file invocations first)
    (h' : Course hosts file invocations second) (alike : ∀ i, first.waiting i = second.waiting i) :
    ((kept hosts first.done).map Prod.snd).Perm ((kept hosts second.done).map Prod.snd) := by
  have same : ∀ i, doneBy first.done i = doneBy second.done i := by
    intro i
    have whole := (h.waiting i).trans (h'.waiting i).symm
    rw [alike i] at whole
    exact List.append_cancel_right whole
  exact (((perm_of_doneBy_eq same).filter _).map _).map _

/-! ## Reading the shared log -/

theorem mem_kept {done : List (Entry ι)} {r : Record} {i : ι} (member : (i, r) ∈ kept hosts done) :
    ∃ invocation ∈ doneBy done i, recordOf (hosts i) invocation = r := by
  have own : r ∈ ((kept hosts done).filter (·.1 = i)).map Prod.snd :=
    List.mem_map.mpr ⟨(i, r), List.mem_filter.mpr ⟨member, by simp⟩, rfl⟩
  rw [filter_kept] at own
  obtain ⟨invocation, isDone, -, equal⟩ := Bench.mem_logged.mp own
  exact ⟨invocation, isDone, equal⟩

/-- Invocations without a newline leave a log that can be read. -/
theorem Course.read_file {file : Bytes} {invocations : ι → List (Conditions × List Bytes)}
    {state : State ι} (h : Course hosts file invocations state) {earlier : List Record}
    (boundary : Log.AtBoundary file) (success : Log.read file = .ok earlier)
    (plainHosts : ∀ i, Bytes.newline ∉ hosts i)
    (plainTokens : ∀ i, ∀ invocation ∈ invocations i, ∀ token ∈ invocation.2,
      Bytes.newline ∉ token) :
    Log.read state.file = .ok (earlier ++ (kept hosts state.done).map Prod.snd) := by
  have complete : ∀ r ∈ (kept hosts state.done).map Prod.snd, r.Complete := by
    intro r member
    obtain ⟨⟨i, _⟩, inLog, rfl⟩ := List.mem_map.mp member
    obtain ⟨invocation, isDone, equal⟩ := mem_kept inLog
    have planned : invocation ∈ invocations i := by
      rw [← h.waiting i]
      exact List.mem_append_left _ isDone
    rw [← equal]
    exact Invocation.complete_record_iff.mpr ⟨plainHosts i, plainTokens i invocation planned⟩
  rw [h.file, inOrder_eq, Log.read_append_eq boundary, success, Log.read_allToBytes complete]
  rfl

/-- Traps without newlines in their hosts and tokens share a log that was readable up to a boundary.
Whatever turns they take, the log is read as the records that were in it before, and behind them the
records whose appends did not fail, in the order of the appends; it is the file that is left by the
trap if it runs the same invocations one after the other, in this order. A process has done the first
of its invocations, these have come to what the trap comes to that runs them alone, the last of them
perhaps not yet, and the records that it kept are those that it would have logged alone, in its own
order. If in another sequence of turns every process has got as far, the same records were kept in
some order, and the inspector lists the same sources where it lists each of them once. -/
theorem read_file_run (hosts : ι → Bytes) (file : Bytes) (earlier : List Record)
    (invocations : ι → List (Conditions × List Bytes)) (boundary : Log.AtBoundary file)
    (success : Log.read file = .ok earlier) (plainHosts : ∀ i, Bytes.newline ∉ hosts i)
    (plainTokens : ∀ i, ∀ invocation ∈ invocations i, ∀ token ∈ invocation.2,
      Bytes.newline ∉ token) (turns : List ι) :
    let state := (State.start file invocations).run hosts turns
    let records := (kept hosts state.done).map Prod.snd
    Log.read state.file = .ok (earlier ++ records) ∧
    state.file = state.done.foldl (fun file (i, conditions, tokens) =>
      (Trap.run (sharedFile conditions) (hosts i) tokens file).2) file ∧
    (∀ i, doneBy state.done i ++ state.waiting i = invocations i ∧
      ((state.ended.filter (·.1 = i)).map Prod.snd <+:
        (doneBy state.done i).map fun (conditions, tokens) =>
          (Trap.run (sharedFile conditions) (hosts i) tokens []).1) ∧
      ((kept hosts state.done).filter (·.1 = i)).map Prod.snd =
        logged (hosts i) (doneBy state.done i) ∧
      (logged (hosts i) (doneBy state.done i)).Sublist records) ∧
    ∀ others : List ι,
      let other := (State.start file invocations).run hosts others
      (∀ i, other.waiting i = state.waiting i) →
        ((kept hosts other.done).map Prod.snd).Perm records ∧
        ∀ build terminal path level,
          let lines (log : Bytes) := Inspector.outputLines
            (Inspector.report (fun _ => .ok log) build terminal
              ⟨.sources path true, .plain, level⟩).output
          ∀ line, line ∈ lines other.file ↔ line ∈ lines state.file := by
  intro state records
  have course : ∀ turns, Course hosts file invocations
      ((State.start file invocations).run hosts turns) :=
    course_run (course_start file invocations)
  have read : ∀ turns, Log.read ((State.start file invocations).run hosts turns).file =
      .ok (earlier ++
        (kept hosts ((State.start file invocations).run hosts turns).done).map Prod.snd) :=
    fun turns => (course turns).read_file boundary success plainHosts plainTokens
  refine ⟨read turns, (course turns).file, ?_, ?_⟩
  · intro i
    have own : ((kept hosts state.done).filter (·.1 = i)).map Prod.snd =
        logged (hosts i) (doneBy state.done i) := filter_kept state.done i
    refine ⟨(course turns).waiting i, ⟨_, (course turns).outcomes i⟩, own, ?_⟩
    rw [← own]
    exact List.filter_sublist.map Prod.snd
  · intro others other alike
    have kept_perm : ((kept hosts other.done).map Prod.snd).Perm records :=
      (course others).kept_perm (course turns) alike
    refine ⟨kept_perm, ?_⟩
    intro build terminal path level lines line
    have listed : ∀ turns, lines ((State.start file invocations).run hosts turns).file =
        Inspector.listed true (earlier ++
          (kept hosts ((State.start file invocations).run hosts turns).done).map Prod.snd) :=
      fun turns => Inspector.outputLines_report (read turns) build terminal path true level
    rw [listed others, listed turns]
    exact Inspector.mem_listed_iff_of_perm (kept_perm.append_left earlier)

/-- Two processes, the first of which fails to log its second invocation: their records stand behind
the one that was there, in the order of their turns. -/
theorem read_file_run_two :
    let hosts : Bool → Bytes := fun _ => [0x63]
    let accepted : Conditions := { names := fun _ => false, execution := ⟨[], .ok 0⟩ }
    let refused : Conditions := { accepted with refusal := some (.file (.numbered .noSpace)) }
    let invocations : Bool → List (Conditions × List Bytes) :=
      Bool.rec [(accepted, [[0x78]]), (refused, [[0x79]])] [(accepted, [[0x7A]])]
    let earlier : Record := ⟨some [0x61], [0x62]⟩
    let after (turns : List Bool) := (State.start earlier.toBytes invocations).run hosts turns
    let records (turns : List Bool) := (kept hosts (after turns).done).map Prod.snd
    Log.read (after [false, true, false, false]).file =
        .ok [earlier, ⟨none, [0x63, 0x20, 0x78, 0x20]⟩, ⟨none, [0x63, 0x20, 0x7A, 0x20]⟩] ∧
      Log.read (after [true, false, false, false]).file =
        .ok [earlier, ⟨none, [0x63, 0x20, 0x7A, 0x20]⟩, ⟨none, [0x63, 0x20, 0x78, 0x20]⟩] ∧
      (records [true, false, false, false]).Perm (records [false, true, false, false]) := by
  intro hosts accepted refused invocations earlier after records
  have boundary : Log.AtBoundary earlier.toBytes := by decide
  have success : Log.read earlier.toBytes = .ok [earlier] := rfl
  have plainHosts : ∀ i, Bytes.newline ∉ hosts i := by decide
  have plainTokens : ∀ i, ∀ invocation ∈ invocations i, ∀ token ∈ invocation.2,
      Bytes.newline ∉ token := by decide
  have atEnd : ∀ i, (after [true, false, false, false]).waiting i =
      (after [false, true, false, false]).waiting i := by
    intro i
    cases i <;> rfl
  have read := read_file_run hosts earlier.toBytes [earlier] invocations boundary success plainHosts
    plainTokens
  obtain ⟨first, -, -, alike⟩ := read [false, true, false, false]
  exact ⟨first, (read [true, false, false, false]).1,
    (alike [true, false, false, false] atEnd).1⟩

end Intercept.Trap.Parallel
