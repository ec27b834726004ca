import Intercept.Host
import Intercept.Proofs.EventLog
import Intercept.Proofs.Files
import Intercept.Proofs.Trap.Isolation
import Intercept.Proofs.Trap.Parallel

/-!
# The log in a file of a host system

What is known of the trap on a bench, and on a file that is shared, holds on a host system too. An
invocation comes to the same in any world as on a bench under the conditions that it meets, and on a
host system the log is a file: every append adds the bytes of its record at the end of what the file
held, and creates the file if it is not there. So the file holds what the log of the bench would
hold, unless a command that was executed has changed it.

Results:
1. `fst_begun_eq`, `fst_run_eq_outcome`, `outcomes_runIn`: what comes of invocations in any world.
2. `Running.Logs.append`: what one append does to the log in a file.
3. `begun_of_logs`: what the log holds when the command of an invocation is executed.
4. `logs_runIn`, `report_after`: what it holds behind several invocations, and what is reported.
5. `logs_of_absent`, `undisturbed_of_nameless`: a log that is still to be created, and commands that
   leave it alone.
6. `errors_trapProgram`, `warnings_run`: what a trap tells without a filter, and up to warnings.
-/

namespace Intercept.Trap

/-! ## Any world as a bench -/

variable {σ : Type}

/-- The conditions that an invocation meets in a world. -/
def Surroundings.met (world : Surroundings σ) (host : Bytes) (tokens : List Bytes) (start : σ) :
    Conditions :=
  let record := Invocation.record host (world.names start) tokens
  let (kept, logged) := world.append record start
  { names := world.names start
    refusal := match kept with
      | .ok () => none
      | .error fault => some fault
    execution := (world.execute record.command logged).1 }

/-- Several invocations in a world, one after the other. -/
def runIn (world : Surroundings σ) (host : Bytes) : List (List Bytes) → σ → List Outcome × σ
  | [], start => ([], start)
  | tokens :: rest, start =>
    let (outcome, next) := run world host tokens start
    let (outcomes, last) := runIn world host rest next
    (outcome :: outcomes, last)

/-- Several invocations, each under the conditions that it meets. -/
def Surroundings.metIn (world : Surroundings σ) (host : Bytes) :
    List (List Bytes) → σ → List (Conditions × List Bytes)
  | [], _ => []
  | tokens :: rest, start =>
    (world.met host tokens start, tokens) :: world.metIn host rest (run world host tokens start).2

/-- What is begun is the same as with a file that is shared, under the conditions that are met. -/
theorem fst_begun_eq (world : Surroundings σ) (host : Bytes) (tokens : List Bytes) (start : σ)
    (file : Bytes) :
    (begun world host tokens start).1 =
      (begun (Parallel.sharedFile (world.met host tokens start)) host tokens file).1 := by
  unfold begun Surroundings.met Parallel.sharedFile Invocation.record
  simp only
  cases (world.append _ start).1 with
  | ok _ => rfl
  | error _ => rfl

theorem fst_run_eq_outcome (world : Surroundings σ) (host : Bytes) (tokens : List Bytes)
    (start : σ) :
    (run world host tokens start).1 = Bench.outcome host (world.met host tokens start, tokens) := by
  unfold Bench.outcome run begun Surroundings.met Invocation.record
  simp only
  cases (world.append _ start).1 with
  | ok _ => rfl
  | error _ => rfl

theorem outcomes_runIn (world : Surroundings σ) (host : Bytes) (tokenLists : List (List Bytes))
    (start : σ) :
    (runIn world host tokenLists start).1 =
      (Bench.runAll host (world.metIn host tokenLists start) {}).map Prod.fst := by
  rw [Bench.outcomes_runAll]
  induction tokenLists generalizing start with
  | nil => rfl
  | cons tokens rest ih =>
      rw [Surroundings.metIn, List.map_cons, ← ih, ← fst_run_eq_outcome]
      rfl

/-- The first of some records that are logged is the first in the log. -/
theorem Bench.allToBytes_logged_cons {host : Bytes} {invocation : Conditions × List Bytes}
    (isLogged : IsLogged invocation) (rest : List (Conditions × List Bytes)) :
    Record.allToBytes (logged host (invocation :: rest)) =
      (recordOf host invocation).toBytes ++ Record.allToBytes (logged host rest) := by
  have first : logged host [invocation] = [recordOf host invocation] := by
    rw [logged, List.filter_cons_of_pos (by simpa using isLogged)]
    rfl
  rw [logged_cons, first, Record.allToBytes_append, Record.allToBytes_singleton]

end Intercept.Trap

namespace Intercept.Host

/-! ## What a program sees -/

/-- Nothing that a process finds of itself has a number or is a file. -/
theorem own_of_mem_ownEntries {p : Shell.Process} {entry : Files.Entry}
    (member : entry ∈ p.ownEntries) : entry.Own := by
  rcases List.mem_cons.mp member with rfl | inChannels
  · exact ⟨rfl, nofun⟩
  · obtain ⟨⟨n, channel⟩, -, rfl⟩ := List.mem_map.mp inChannels
    refine ⟨rfl, fun contents isFile => ?_⟩
    simp only [Shell.Process.channelEntry] at isFile
    split at isFile
    · split at isFile
      · exact nomatch isFile
      · exact nomatch isFile
    · exact nomatch isFile

/-- What a process finds of itself is found where processes are shown. -/
theorem head?_of_mem_ownEntries {p : Shell.Process} {entry : Files.Entry}
    (member : entry ∈ p.ownEntries) : entry.place.head? = some Files.processes := by
  rcases List.mem_cons.mp member with rfl | inChannels
  · unfold Shell.Process.directoryPlace
    rfl
  · obtain ⟨⟨n, channel⟩, -, rfl⟩ := List.mem_map.mp inChannels
    rfl

/-- What the program that starts others finds of itself, in whatever tree. -/
def ownEntries (directory : Files.Place) (heard : Bool) : List Files.Entry :=
  (caller ⟨{}, directory, []⟩ heard).ownEntries

/-- What it does not wait for leads elsewhere, and is no stream then. -/
theorem exists_ownEntries (directory : Files.Place) :
    ∃ front entry link, ownEntries directory true = front ++ [entry] ∧
      ownEntries directory false = front ++ [link] ∧ link.place = entry.place ∧
      entry.node = .stream 2 :=
  ⟨[_, _, _], _, _, rfl, rfl, rfl, rfl⟩

theorem tree_caller {host : Host} (numbered : host.tree.Numbered) (heard : Bool) :
    (host.caller heard).tree = host.tree.behind (ownEntries host.directory heard) := by
  have lost : host.tree.numbered? 0 = none :=
    List.find?_eq_none.mpr fun entry member => by simpa using numbered entry member
  have lost' : ({} : Files.Tree).numbered? 0 = none := rfl
  have own : (host.caller heard).ownEntries = ownEntries host.directory heard := by
    cases heard <;>
      simp [Shell.Process.ownEntries, ownEntries, caller, Shell.Process.channelEntry,
        Shell.Process.placeOf, lost, lost']
  unfold Shell.Process.tree Files.Tree.behind
  rw [own]
  rfl

/-- What is changed behind the entries of the program is changed for all others. -/
theorem withView_behind (host : Host) {tree : Files.Tree} (numbered : tree.Numbered)
    {own : List Files.Entry} (apart : ∀ entry ∈ own, entry.Own) :
    host.withView (tree.behind own) = { host with tree } := by
  have cut : (own ++ tree.entries).dropWhile (fun entry => decide (entry.attributes.number = 0)) =
      tree.entries := by
    rw [List.dropWhile_append_of_pos fun entry member => decide_eq_true (apart entry member).number]
    cases entries : tree.entries with
    | nil => rfl
    | cons first rest =>
        refine List.dropWhile_cons_of_neg ?_
        simpa using numbered first (entries ▸ List.mem_cons_self)
  unfold withView Shell.Process.setTree Files.Tree.behind
  simp only [cut]

/-- What a program sees that waits for messages is seen by others too, streams apart. -/
theorem get?_view {host : Host} (numbered : host.tree.Numbered) {heard : Bool}
    {place : Files.Place} {node : Files.Node}
    (there : (host.caller heard).tree.get? place = some node)
    (still : ∀ channel, node ≠ .stream channel) : host.view.get? place = some node := by
  cases heard with
  | false => exact there
  | true =>
      obtain ⟨front, entry, link, heardOnes, others, samePlace, stream⟩ :=
        exists_ownEntries host.directory
      rw [tree_caller numbered, heardOnes] at there
      rw [view, tree_caller numbered, others]
      unfold Files.Tree.get? at there ⊢
      split
      · next top => rwa [if_pos top] at there
      · next below =>
        rw [if_neg below, Files.Tree.entry?_behind, List.find?_append] at there
        rw [Files.Tree.entry?_behind, List.find?_append]
        cases first : front.find? fun entry => decide (entry.place = place) with
        | some found =>
            rw [first] at there
            exact there
        | none =>
            rw [first] at there
            by_cases own : entry.place = place
            · simp only [List.find?_cons, own, decide_true, Option.none_or, Option.some_or,
                Option.map_some, Option.some.injEq] at there
              exact absurd (there.symm.trans stream) (still 2)
            · simpa [own, samePlace] using there

/-! ## The log -/

/-- The path of a log leads to a file with some contents, as the trap sees it, or to where an empty
one can be created. -/
structure Running.Logs (running : Running) (results contents : Bytes) : Prop where
  numbered : running.host.tree.Numbered
  sound : running.host.tree.Sound
  leads : ∃ found, (running.host.caller running.heard).tree.findToWrite running.host.directory
    results = .ok found ∧ found.Holds contents

/-- What the log holds is read, if it holds anything. -/
theorem Running.Logs.fileContents {running : Running} {results contents : Bytes}
    (logs : running.Logs results contents) (written : contents ≠ []) :
    running.host.fileContents results = .ok contents := by
  obtain ⟨found, reached, holds⟩ := logs.leads
  have there := Files.Tree.get?_of_findToWrite reached holds
  cases holds with
  | free => exact absurd rfl written
  | file place =>
      have now : running.host.view.get? place = some (.file contents) :=
        get?_view logs.numbered there nofun
      have stay : ∀ place node, node.leadsOn →
          (running.host.caller running.heard).tree.get? place = some node →
            running.host.view.get? place = some node := by
        intro place node leadsOn inTree
        refine get?_view logs.numbered inTree ?_
        rintro channel rfl
        exact nomatch leadsOn
      have found := Files.Tree.find_of_stay stay (Files.Tree.find_of_findToWrite reached)
        (.file place contents) now false
      rw [Host.fileContents, Files.Tree.read_of_find found]
      rfl

/-- One append adds the bytes of its record at the end of the log. -/
theorem Running.Logs.append {running : Running} {results contents : Bytes}
    (logs : running.Logs results contents) (r : Record) :
    ∃ tree, Host.append results r running =
        (.ok (), { running with host := { running.host with tree } }) ∧
      { running with host := { running.host with tree } : Running }.Logs results
        (contents ++ r.toBytes) := by
  obtain ⟨found, reached, holds⟩ := logs.leads
  have apart : ∀ entry ∈ ownEntries running.host.directory running.heard, entry.Own :=
    fun _ => own_of_mem_ownEntries
  have seen := tree_caller logs.numbered running.heard
  rw [seen] at reached
  have there := Files.Tree.get?_of_findToWrite reached holds
  obtain ⟨after, appended, sound, now, stay⟩ :=
    Files.Tree.exists_appendAt (logs.sound.behind logs.numbered apart) there holds r.toBytes
  -- The trap sees the new tree behind entries of its own, which stay as they are.
  obtain ⟨tree, inner, rfl⟩ :=
    Files.Tree.exists_appendAt_of_behind logs.numbered apart holds there appended
  have numbered := logs.numbered.appendAt inner
  refine ⟨tree, ?_, numbered, sound.of_behind, _, ?_, .file found.place _⟩
  · have whole : (running.host.caller running.heard).tree.append running.host.directory results
        r.toBytes = .ok (tree.behind (ownEntries running.host.directory running.heard)) := by
      rw [seen, Files.Tree.append, reached]
      exact appended
    have changed := withView_behind running.host numbered apart
    rw [Host.append]
    simp only [whole]
    rw [seen, reached]
    cases holds <;> simp only [changed]
  · rw [tree_caller numbered]
    exact Files.Tree.findToWrite_of_find
      (Files.Tree.find_of_stay stay (Files.Tree.find_of_findToWrite reached) holds now true)

/-! ## One invocation -/

/-- The first half of an invocation does to the log what it does to a file that is shared: when the
command is executed, the record is at the end of what the log held, and is read there. -/
theorem begun_of_logs {running : Running} {results contents : Bytes}
    (logs : running.Logs results contents) (interpreter : Interpreter) (host : Bytes)
    (tokens : List Bytes) :
    let invocation := ((world interpreter results).met host tokens running, tokens)
    let shared := Trap.begun (Trap.Parallel.sharedFile invocation.1) host tokens contents
    let (begun, logged) := Trap.begun (world interpreter results) host tokens running
    Trap.Bench.IsLogged invocation ∧
      shared.2 = contents ++ (Trap.Bench.recordOf host invocation).toBytes ∧
      begun = shared.1 ∧ logged.Logs results shared.2 ∧
      logged.host.fileContents results = .ok shared.2 := by
  intro invocation shared
  obtain ⟨tree, appended, after⟩ := logs.append (Trap.Bench.recordOf host invocation)
  have whole : (world interpreter results).append (Trap.Bench.recordOf host invocation) running =
      (.ok (), { running with host := { running.host with tree } }) := appended
  have isLogged : Trap.Bench.IsLogged invocation := by
    show (match ((world interpreter results).append (Trap.Bench.recordOf host invocation)
      running).1 with | .ok () => none | .error fault => some fault) = none
    rw [whole]
  have file : shared.2 = contents ++ (Trap.Bench.recordOf host invocation).toBytes :=
    (Trap.Parallel.file_begun host invocation contents).trans (if_pos isLogged)
  have logged_eq : (Trap.begun (world interpreter results) host tokens running).2 =
      { running with host := { running.host with tree } } := congrArg Prod.snd whole
  have written : shared.2 ≠ [] := by simp [file, Record.toBytes]
  rw [← logged_eq, ← file] at after
  exact ⟨isLogged, file, Trap.fst_begun_eq _ host tokens running contents, after,
    after.fileContents written⟩

/-! ## Several invocations -/

/-- No command of some invocations changes what the log holds. -/
def Undisturbed (interpreter : Interpreter) (results host : Bytes) :
    List (List Bytes) → Running → Prop
  | [], _ => True
  | tokens :: rest, start =>
    let logged := (Trap.begun (world interpreter results) host tokens start).2
    let done := (Trap.run (world interpreter results) host tokens start).2
    (∀ contents, logged.Logs results contents → done.Logs results contents) ∧
      Undisturbed interpreter results host rest done

/-- Behind several invocations the log holds their records too, unless a command has changed it. -/
theorem logs_runIn {interpreter : Interpreter} {results host : Bytes}
    {tokenLists : List (List Bytes)} {start : Running}
    (undisturbed : Undisturbed interpreter results host tokenLists start) {contents : Bytes}
    (logs : start.Logs results contents) :
    let invocations := (world interpreter results).metIn host tokenLists start
    (∀ invocation ∈ invocations, Trap.Bench.IsLogged invocation) ∧
      (Trap.runIn (world interpreter results) host tokenLists start).2.Logs results
        (contents ++ Record.allToBytes (Trap.Bench.logged host invocations)) := by
  induction tokenLists generalizing start contents with
  | nil =>
      refine ⟨fun _ member => absurd member List.not_mem_nil, ?_⟩
      show start.Logs results (contents ++ [])
      rwa [List.append_nil]
  | cons tokens rest ih =>
      obtain ⟨leftAlone, undisturbedRest⟩ := undisturbed
      obtain ⟨isLogged, file, -, after, -⟩ := begun_of_logs logs interpreter host tokens
      rw [file] at after
      obtain ⟨others, last⟩ := ih undisturbedRest (leftAlone _ after)
      refine ⟨List.forall_mem_cons.mpr ⟨isLogged, others⟩, ?_⟩
      rw [Trap.Surroundings.metIn, Trap.Bench.allToBytes_logged_cons isLogged, ← List.append_assoc]
      exact last

/-- A trap on a host system whose log is a file that is empty or still to be created runs any number
of times, one after the other, and no command changes the log. Then every invocation comes to what
it comes to on a bench under the conditions that it meets, none of these being a failed append; and
the file is that of the bench's log, so that it is read back as this log is, and the inspector
reports the same on it. -/
theorem report_after {interpreter : Interpreter} {results host : Bytes} {tokens : List Bytes}
    {rest : List (List Bytes)} {start : Running}
    (undisturbed : Undisturbed interpreter results host (tokens :: rest) start)
    (logs : start.Logs results []) :
    let invocations := (world interpreter results).metIn host (tokens :: rest) start
    let bench := Trap.Bench.after host invocations {}
    let course := Trap.runIn (world interpreter results) host (tokens :: rest) start
    (∀ invocation ∈ invocations, invocation.1.refusal = none) ∧
      course.1 = (Trap.Bench.runAll host invocations {}).map Prod.fst ∧
      course.2.host.fileContents results = .ok bench.log.contents ∧
      course.2.host.readLog results = (Log.read bench.log.contents).mapError .malformed ∧
      ∀ build terminal format level file, file.getD build.settings.results = results →
        let report (readFile : Bytes → Except Fault Bytes) (command : Inspector.Command) :=
          Inspector.report readFile build terminal ⟨command, format, level⟩
        (∀ unique, report course.2.host.fileContents (.sources file unique) =
          report (fun _ => .ok bench.log.contents) (.sources file unique)) ∧
        report course.2.host.fileContents (.records file) =
          report (fun _ => .ok bench.log.contents) (.records file) := by
  intro invocations bench course
  obtain ⟨isLogged, last⟩ := logs_runIn undisturbed logs
  have written : Record.allToBytes (Trap.Bench.logged host invocations) ≠ [] := by
    rw [show invocations = _ :: _ from rfl,
      Trap.Bench.allToBytes_logged_cons (isLogged _ List.mem_cons_self)]
    simp [Record.toBytes]
  have contents : course.2.host.fileContents results = .ok bench.log.contents := by
    rw [Trap.Bench.contents_after]
    exact last.fileContents written
  have sameLog : ∀ (build : Inspector.Build) (file : Option Bytes) print,
      file.getD build.settings.results = results →
        Inspector.onLog course.2.host.fileContents build file print =
          Inspector.onLog (fun _ => .ok bench.log.contents) build file print := by
    rintro build file print rfl
    unfold Inspector.onLog
    simp only [contents]
  refine ⟨isLogged, Trap.outcomes_runIn _ host _ start, contents, ?_, ?_⟩
  · simp only [readLog, contents, bind, Except.bind]
  · intro build terminal format level file isResults report
    exact ⟨fun unique => sameLog build file _ isResults, sameLog build file _ isResults⟩

/-! ## Where there is no log as yet -/

/-- A log with a plain name is created in the directory in which programs are started. -/
theorem logs_of_absent (host : Host) (numbered : host.tree.Numbered) (sound : host.tree.Sound)
    {results : Bytes} (noNul : ¬ results.contains 0) (noSlash : Bytes.slash ∉ results)
    (proper : ¬ (results = [] ∨ results = Files.here)) (down : results ≠ Files.above)
    (short : ¬ Files.longestName < results.length)
    (outside : (host.directory ++ [results]).head? ≠ some Files.processes)
    (inside : (host.tree.get? host.directory).isSome)
    (absent : host.tree.get? (host.directory ++ [results]) = none) (heard : Bool) :
    ({ host, heard } : Running).Logs results [] := by
  have elsewhere : ∀ place : Files.Place, place.head? ≠ some Files.processes →
      ((host.caller heard).tree).get? place = host.tree.get? place := by
    intro place outside
    rw [tree_caller numbered]
    refine Files.Tree.get?_behind_of_outside host.tree fun entry member same => outside ?_
    rw [← same]
    exact head?_of_mem_ownEntries member
  have outside' : host.directory.head? ≠ some Files.processes := by
    intro shown
    rw [List.head?_append, shown] at outside
    exact outside rfl
  refine ⟨numbered, sound, .free (host.directory ++ [results]), ?_, .free _⟩
  refine Files.Tree.findToWrite_of_absent noNul noSlash proper down short ?_ ?_ outside
  · rwa [elsewhere host.directory outside']
  · rwa [elsewhere _ outside]

theorem sound_standardTree : standardTree.Sound ∧ standardTree.Numbered := by
  have modes : ∀ (paths : List String) (tree : Files.Tree), tree.Sound ∧ tree.Numbered →
      let changed := paths.foldl (fun tree path => tree.setMode (placeOf path) 0o1777) tree
      changed.Sound ∧ changed.Numbered := by
    intro paths
    induction paths with
    | nil => exact fun tree both => both
    | cons path rest ih => exact fun tree both => ih _ ⟨both.1.setMode _ _, both.2.setMode _ _⟩
  unfold standardTree
  extract_lets nodes tree dated timed
  exact modes _ timed
    ⟨(Files.Tree.sound_ofNodes nodes).map dated (fun _ => rfl) (fun _ => rfl) _,
      (Files.Tree.numbered_ofNodes nodes).map dated (fun _ => rfl) _⟩

/-- Where nothing has been done there is no log as yet. -/
example (environment : List (Bytes × Bytes)) :
    ({ host := ⟨standardTree, workPlace, environment⟩ } : Running).Logs
      (Bytes.ofString "results.txt") [] := by
  have outside : (workPlace ++ [Bytes.ofString "results.txt"]).head? ≠ some Files.processes := by
    decide +kernel
  have inside : (standardTree.get? workPlace).isSome := by decide +kernel
  have absent : standardTree.get? (workPlace ++ [Bytes.ofString "results.txt"]) = none := by
    decide +kernel
  exact logs_of_absent ⟨standardTree, workPlace, environment⟩ sound_standardTree.2
    sound_standardTree.1 (by decide) (by decide) (by decide) (by decide) (by decide) outside inside
    absent false

/-- A program without a name is not found, so that a trap which gives its commands to such a one
leaves the log to itself. -/
theorem undisturbed_of_nameless (option : String) (results host : Bytes)
    (tokenLists : List (List Bytes)) (start : Running) :
    Undisturbed ⟨"", option⟩ results host tokenLists start := by
  have alone : ∀ command running, (execute ⟨"", option⟩ command running).2 = running := by
    intro command running
    have notStarted : ∃ cause, running.host.launch running.heard (Bytes.ofString "")
        [Bytes.ofString option, command] = .error cause := by
      unfold launch
      split
      · exact ⟨_, rfl⟩
      · exact ⟨_, rfl⟩
    obtain ⟨cause, notStarted⟩ := notStarted
    unfold execute
    simp only [notStarted]
  induction tokenLists generalizing start with
  | nil => trivial
  | cons tokens rest ih =>
      refine ⟨fun contents logs => ?_, ih _⟩
      show ((execute ⟨"", option⟩ _ _).2).Logs results contents
      rw [alone]
      exact logs

/-! ## What the trap tells -/

/-- Without a filter the trap tells nothing by itself: its errors are those of its command, behind
what the log has come to where messages go. -/
theorem errors_trapProgram (tokens : List Bytes) (host : Host) :
    let after := (runTrap Inspector.Build.installed.settings tokens { host, heard := true }).2
    (trapProgram none tokens host).1.errors = after.logged ++ after.errors := by
  intro after
  have silent (events : List Event) : Bytes.ofString (EventLog.lines [] events) = [] := by
    rw [EventLog.lines_nil]
    rfl
  unfold trapProgram filteredTrap
  simp only [silent, List.nil_append, List.append_nil]
  split <;> rfl

theorem fst_execute (interpreter : Interpreter) (command : Bytes) (running : Running) :
    (execute interpreter command running).1 =
      Trap.Execution.byInterpreter interpreter.program command
        ((running.host.launch running.heard (Bytes.ofString interpreter.program)
          [Bytes.ofString interpreter.option, command]).map (·.status)) := by
  unfold execute
  simp only
  split <;> rfl

/-- Up to warnings a trap on a host system tells that its record could not be logged, and that the
interpreter could not be started, where that is so, and nothing else. -/
theorem warnings_run (interpreter : Interpreter) (results host : Bytes) (tokens : List Bytes)
    (start : Running) :
    let conditions := (world interpreter results).met host tokens start
    (Trap.run (world interpreter results) host tokens start).1.events.filter
        (EventLog.Filter.upTo .warn).shows =
      (conditions.refusal.map Event.notLogged).toList ++
        (conditions.execution.fault?.map Event.notExecuted).toList := by
  intro conditions
  have quiet : ∀ event ∈ conditions.execution.events, Level.warn.rank < event.level.rank := by
    intro event member
    have member : event ∈ (execute interpreter _ _).1.events := member
    rw [fst_execute] at member
    exact EventLog.lt_rank_of_mem_byInterpreter member
  rw [Trap.fst_run_eq_outcome]
  exact EventLog.filter_upTo_warn host (conditions, tokens) quiet

end Intercept.Host
