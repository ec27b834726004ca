import Intercept.Proofs.Shell.Arguments
import Intercept.Shell.Evaluation

/-!
# The file that a command line starts

A command of words alone is carried out in a scope of its own, with the channels as they are. If its
name is that of no function and no command of the shell, the file of that name is carried out with
the other fields as its arguments. So the command that is read from the command line of an
invocation carries out the file of the host, with the tokens as its arguments.

Results:
1. `runCall_eq`: a call of a name that means nothing to the shell.
2. `runForm_wordOf`: the command that a command line is read as.
3. `exists_file_of_command`: from the command line of an invocation to the file and its arguments.
-/

namespace Intercept.Shell

open Invocation (assemble IsPlain IsPlainHost padded)

/-! ## Computations that are the same from a state -/

theorem andThen_congr {α : Type} {first second : Action α} {p : Process}
    (same : first.runFrom p = second.runFrom p) (change : Process → Process) :
    (first.andThen change).runFrom p = (second.andThen change).runFrom p := by
  unfold Action.andThen
  rw [runFrom_get_bind, runFrom_get_bind, same]

theorem withScope_congr {α : Type} {first second : Action α} {p : Process}
    (same : first.runFrom { p with scopes := [] :: p.scopes } =
      second.runFrom { p with scopes := [] :: p.scopes }) :
    (withScope first).runFrom p = (withScope second).runFrom p := by
  let inside : Process := { p with scopes := [] :: p.scopes }
  show (first.andThen Process.leaveScope).runFrom inside =
    (second.andThen Process.leaveScope).runFrom inside
  exact andThen_congr same _

/-! ## Carrying out a command -/

/-- A call without assignments and redirections of a name that is no function carries out the file
of that name. -/
theorem runCall_eq (p : Process) {name : Bytes} (noFunction : p.functions.lookup name = none)
    (silent : p.switches.traces = false) (arguments : List Bytes) (fuel : Nat)
    (c : Circumstances) :
    (runCall (fuel + 1) c { fields := name :: arguments, next := .argument } [] []).runFrom p =
      ((runFile fuel c false (name :: arguments)).andThen
        fun after => { after with channels := p.channels }).runFrom p := by
  have noTrace (output : Command → Action Bytes) (channel : Option Channel)
      (fields : List Bytes) : (trace output channel fields).runFrom p = (.ok (), p) := by
    unfold trace
    rw [runFrom_get_bind, silent]
    rfl
  have noConnection : (Connection.makeAll (substitute fuel) []).attempt.runFrom p =
      (.ok (some ()), p) := rfl
  rw [runCall, runFrom_get_bind,
    runFrom_bind (show (Connection.ofRedirects _ []).runFrom p = (.ok [], p) from rfl)]
  simp only [Call.isReplacement, Option.any_none, Bool.false_eq_true, if_false]
  refine andThen_congr ?_ _
  rw [runFrom_bind noConnection]
  simp only [Option.isNone_some, Bool.false_eq_true, if_false, List.mapM_nil, pure_bind]
  rw [runFrom_bind (noTrace _ _ _), runFrom_get_bind]
  simp only [noFunction]

/-- The command that a command line is read as carries out the file of the host, with the tokens as
its arguments, in a scope of its own, and leaves the channels of the shell as they are. -/
theorem runForm_wordOf {host : Bytes} (hostPlain : IsPlainHost host) {tokens : List Bytes}
    (plain : ∀ token ∈ tokens, IsPlain token) {p : Process}
    (notOwn : Builtin.find? p.language host = none)
    (noFunction : p.functions.lookup host = none) (silent : p.switches.traces = false)
    (line fuel : Nat) (c : Circumstances) :
    (runForm (fuel + 2) c (.simple line [] ((host :: tokens).map wordOf) [])).runFrom p =
      (withScope ((runFile fuel c false (host :: tokens.map (padded 1))).andThen
        fun after => { after with channels := p.channels })).runFrom
          { p with line, bodyStatus := 0 } := by
  let ready : Process := { p with line, bodyStatus := 0 }
  have call := expandCall_wordOf (substitute (fuel + 1)) ready hostPlain notOwn plain
  have isLocal :
      Call.isLocal { fields := host :: tokens.map (padded 1), next := .argument } = true := rfl
  rw [runForm]
  simp only
  rw [runFrom_bind (show (Action.setLine line).runFrom p = (.ok (), { p with line }) from rfl),
    runFrom_bind (show Action.runFrom (modify _) { p with line } = (.ok (), ready) from rfl),
    runFrom_bind call, if_pos isLocal]
  exact withScope_congr (runCall_eq { ready with scopes := [] :: p.scopes } noFunction silent
    (tokens.map (padded 1)) fuel c)

/-- From the command line of an invocation a shell reads one command and nothing else, and carries
out the file of the host with what the words of the line pass on. The shell may be of either
language, and the host is no word that means something to it. -/
theorem exists_file_of_command {host : Bytes} (hostPlain : IsPlainHost host)
    (names : Bytes → Bool) {tokens : List Bytes} (plain : ∀ token ∈ tokens, IsPlain token)
    (p : Process) (noKeyword : Token.keyword? p.language host = none)
    (noOther : p.aliases.lookup host = none) (notOwn : Builtin.find? p.language host = none)
    (noFunction : p.functions.lookup host = none) (silent : p.switches.traces = false)
    (isFile : Bool)
    (enough : (assemble host names tokens).command.length + 16 ≤ Reader.stepLimit) :
    ∃ command after arguments,
      Reader.line { Source.ofText p.language isFile (assemble host names tokens).command with
        language := p.language
        aliases := if p.language.isExtended then [] else p.aliases
        documents := p.documents
        nextDocument := p.nextDocument } = .ok (some command, after) ∧
      (∃ atEnd, Reader.line after = .ok (none, atEnd)) ∧
      Words.ofLine (assemble host names tokens).command = some (host :: arguments) ∧
      ∀ fuel c, (runForm (fuel + 2) c command).runFrom p =
        (withScope ((runFile fuel c false (host :: arguments)).andThen
          fun after => { after with channels := p.channels })).runFrom
            { p with line := 1, bodyStatus := 0 } := by
  have noAlias : (if p.language.isExtended then [] else p.aliases).lookup host = none := by
    split
    · rfl
    · exact noOther
  obtain ⟨after, read, atEnd⟩ := exists_line_command hostPlain names plain isFile noKeyword noAlias
    p.documents p.nextDocument enough
  exact ⟨_, after, tokens.map (padded 1), read, atEnd,
    Invocation.ofLine_command hostPlain names plain,
    runForm_wordOf hostPlain plain notOwn noFunction silent 1⟩

/-- The name of a compiler means nothing to a shell of either language. -/
example (language : Language) :
    let host := Bytes.ofString "clang-14"
    IsPlainHost host ∧ Token.keyword? language host = none ∧
      Builtin.find? language host = none := by
  cases language <;> decide +kernel

end Intercept.Shell
