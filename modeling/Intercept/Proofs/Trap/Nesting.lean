import Intercept.Proofs.Trap.Isolation
import Intercept.Proofs.WaitStatus

/-!
# Traps behind traps

The host compiler of a trap may be a trap again, and so on. Each of them gives its command to a
command interpreter, which cuts it into words, starts the next trap on them and ends as that one
does; the last command is the one of a compiler. Codes go the other way: a code leaves a process in
eight bits, and the parent is told of it by a word. This module says that nothing is lost on the
way, so that all the traps end with one code, and that this code is zero only for a compiler that
exited with zero.

Results:
1. `code_run`: the code of a trap is what the end of its interpreter is reported by.
2. `exitCode_run`: it fits into the exit code of a process.
3. `reported_behind`: traps in front of an interpreter change nothing of what is reported.
4. `codes_transparent`: all of this together.
-/

namespace Intercept.Trap

open WaitStatus

variable {σ : Type}

/-! ## Definitions -/

/-- What a command interpreter does with a command that it is given in some world: it changes the
world, and its parent is told a word, or why it could not be started. -/
abbrev Interpreter (σ : Type) := Bytes × σ → Except Cause Int32 × σ

/-- The code that the end of an interpreter is reported by. -/
def reported : Except Cause Int32 → Nat
  | .ok raw => (ofRaw raw).exitCode
  | .error _ => 127

/-- A trap as it is installed: how it looks up names and keeps its log, the interpreter that it
starts, and the host compiler that it stands in for. -/
structure Installed (σ : Type) where
  names : σ → Bytes → Bool
  append : Record → σ → Except Fault Unit × σ
  program : String
  host : Bytes

namespace Installed

/-- The world of the trap, with an interpreter for its commands. -/
def surroundings (trap : Installed σ) (interpreter : Interpreter σ) : Surroundings σ where
  names := trap.names
  append := trap.append
  execute command world :=
    let (ended, done) := interpreter (command, world)
    (.byInterpreter trap.program command (ended.map ofRaw), done)

def run (trap : Installed σ) (interpreter : Interpreter σ) (tokens : List Bytes) (world : σ) :
    Outcome × σ :=
  Trap.run (trap.surroundings interpreter) trap.host tokens world

/-- The command that the trap gives to its interpreter, and the world in which it does. -/
def delegated (trap : Installed σ) (tokens : List Bytes) (world : σ) : Bytes × σ :=
  let assembly := Invocation.assemble trap.host (trap.names world) tokens
  (assembly.command, (trap.append ⟨assembly.source, assembly.command⟩ world).2)

/-- An interpreter whose commands start the trap as a process. The trap is given the words that the
interpreter makes of the command, and the interpreter ends as the trap does. -/
def asProcess (trap : Installed σ) (words : Bytes × σ → List Bytes) (inner : Interpreter σ) :
    Interpreter σ := fun given =>
  let (outcome, done) := trap.run inner (words given) given.2
  (.ok (exitWord outcome.exitCode), done)

end Installed

/-- An interpreter whose commands start the first of some traps, which gives its own command to an
interpreter whose commands start the second one, and so on. -/
def behind (words : Bytes × σ → List Bytes) (interpreter : Interpreter σ) :
    List (Installed σ) → Interpreter σ
  | [] => interpreter
  | trap :: inner => trap.asProcess words (behind words interpreter inner)

/-- The command that comes out behind some traps, and the world in which it does. -/
def passed (words : Bytes × σ → List Bytes) : List (Installed σ) → Bytes × σ → Bytes × σ
  | [], given => given
  | trap :: inner, given => passed words inner (trap.delegated (words given) given.2)

/-! ## One trap -/

theorem reported_lt (ended : Except Cause Int32) : reported ended < 256 := by
  cases ended with
  | error cause => simp [reported]
  | ok raw => exact exitCode_lt raw

/-- Only a child that exited with zero is reported by zero. -/
theorem reported_eq_zero_iff {ended : Except Cause Int32} :
    reported ended = 0 ↔ ∃ raw, ended = .ok raw ∧ HasExited raw ∧ codeBits raw = 0 := by
  cases ended with
  | error cause => exact iff_of_false (by simp [reported]) nofun
  | ok raw =>
      have success := exitCode_eq_zero_iff raw
      simpa [reported] using success

theorem code_byInterpreter (program : String) (command : Bytes) (ended : Except Cause Int32) :
    (Execution.byInterpreter program command (ended.map ofRaw)).code = reported ended := by
  cases ended <;> rfl

/-- The code of a trap is that of its execution, whether or not its record was kept. -/
theorem code_run_eq (surroundings : Surroundings σ) (host : Bytes) (tokens : List Bytes)
    (world : σ) :
    let assembly := Invocation.assemble host (surroundings.names world) tokens
    let logged := (surroundings.append ⟨assembly.source, assembly.command⟩ world).2
    (Trap.run surroundings host tokens world).1.code =
      (surroundings.execute assembly.command logged).1.code := by
  intro assembly logged
  rcases executed : surroundings.execute assembly.command logged with ⟨⟨events, result⟩, done⟩
  unfold logged at executed
  cases result <;> simp [Trap.run, begun, Begun.finish, Execution.code, assembly, executed]

namespace Installed

/-- The code of a trap is what the end of its interpreter is reported by. -/
theorem code_run (trap : Installed σ) (interpreter : Interpreter σ) (tokens : List Bytes)
    (world : σ) :
    (trap.run interpreter tokens world).1.code =
      reported (interpreter (trap.delegated tokens world)).1 :=
  (code_run_eq _ trap.host tokens world).trans (code_byInterpreter _ _ _)

/-- The code fits into the eight bits of an exit code. -/
theorem exitCode_run (trap : Installed σ) (interpreter : Interpreter σ) (tokens : List Bytes)
    (world : σ) :
    (trap.run interpreter tokens world).1.exitCode =
      reported (interpreter (trap.delegated tokens world)).1 := by
  have small := reported_lt (interpreter (trap.delegated tokens world)).1
  rw [Outcome.exitCode, code_run]
  omega

/-- An interpreter that ends as a trap does is reported like the trap's own interpreter. -/
theorem reported_asProcess (trap : Installed σ) (words : Bytes × σ → List Bytes)
    (inner : Interpreter σ) (given : Bytes × σ) :
    reported (trap.asProcess words inner given).1 =
      reported (inner (trap.delegated (words given) given.2)).1 := by
  have told : (trap.asProcess words inner given).1 =
      .ok (exitWord (trap.run inner (words given) given.2).1.exitCode) := rfl
  rw [told, exitCode_run]
  exact exitCode_exitWord (reported_lt _)

end Installed

/-! ## Several traps -/

theorem passed_append (words : Bytes × σ → List Bytes) (outer inner : List (Installed σ))
    (given : Bytes × σ) :
    passed words (outer ++ inner) given = passed words inner (passed words outer given) := by
  induction outer generalizing given with
  | nil => rfl
  | cons trap rest ih => exact ih (trap.delegated (words given) given.2)

/-- Traps in front of an interpreter change nothing of what is reported. -/
theorem reported_behind (words : Bytes × σ → List Bytes) (interpreter : Interpreter σ)
    (traps : List (Installed σ)) (given : Bytes × σ) :
    reported (behind words interpreter traps given).1 =
      reported (interpreter (passed words traps given)).1 := by
  -- The front trap hands its command, and the world as it leaves it, to those behind it.
  induction traps generalizing given with
  | nil => rfl
  | cons trap inner ih => rw [behind, trap.reported_asProcess, ih, passed]

/-- The code that a child's end is reported by, and what becomes of it. For every word the code has
eight bits; it is zero exactly for a child that exited with zero, the child's own code if it exited,
128 and the number of the signal, from 129 to 254, if a signal ended it, and one otherwise. A trap,
whatever it logs and whether or not that fails, ends with the code of its interpreter's word, or
with 127 if that could not be started; its process's exit code is the same number, and so is the
code of the word that the parent is told. Hence, of any number of traps each of which is the host
compiler of the one in front of it, each ends with the code of the interpreter behind the last of
them, and none of them reports a success unless the child of that interpreter exited with zero. -/
theorem codes_transparent (words : Bytes × σ → List Bytes) (interpreter : Interpreter σ) :
    (∀ raw : Int32,
      let code := (ofRaw raw).exitCode
      code ≤ 255 ∧ (code = 0 ↔ HasExited raw ∧ codeBits raw = 0) ∧
      (HasExited raw → (code : Int) = (codeBits raw).toInt) ∧
      (IsSignalled raw → (code : Int) = 128 + (signalBits raw).toInt ∧ 129 ≤ code ∧ code ≤ 254) ∧
      (¬ HasExited raw → ¬ IsSignalled raw → code = 1)) ∧
    (∀ (trap : Installed σ) (tokens : List Bytes) (world : σ),
      let outcome := (trap.run interpreter tokens world).1
      let ended := (interpreter (trap.delegated tokens world)).1
      (∀ raw, ended = .ok raw → outcome.code = (ofRaw raw).exitCode) ∧
      (∀ cause, ended = .error cause → outcome.code = 127) ∧
      (outcome.exitCode : Int) = outcome.code ∧
      ((ofRaw (exitWord outcome.exitCode)).exitCode : Int) = outcome.code) ∧
    ∀ (outer : List (Installed σ)) (trap : Installed σ) (inner : List (Installed σ))
        (given : Bytes × σ),
      let start := passed words outer given
      let outcome := (trap.run (behind words interpreter inner) (words start) start.2).1
      let ended := (interpreter (passed words (outer ++ trap :: inner) given)).1
      outcome.code = reported ended ∧
      (outcome.code = 0 ↔ ∃ raw, ended = .ok raw ∧ HasExited raw ∧ codeBits raw = 0) := by
  refine ⟨fun raw => ⟨?_, exitCode_eq_zero_iff raw, exitCode_of_hasExited, fun signal => ?_,
    exitCode_of_neither⟩, fun trap tokens world => ⟨?_, ?_, ?_, ?_⟩, ?_⟩
  · exact Nat.le_of_lt_succ (exitCode_lt raw)
  · have code := exitCode_of_isSignalled signal
    have bounds := signalBits_bounds signal
    exact ⟨code, by omega, by omega⟩
  · intro raw ended
    rw [trap.code_run, ended]
    rfl
  · intro cause ended
    rw [trap.code_run, ended]
    rfl
  · rw [trap.exitCode_run, trap.code_run]
  · rw [trap.exitCode_run, trap.code_run, exitCode_exitWord (reported_lt _)]
  · intro outer trap inner given start outcome ended
    have code : outcome.code = reported ended := by
      unfold outcome ended
      rw [trap.code_run, reported_behind, passed_append, passed]
    refine ⟨code, ?_⟩
    rw [code, ← reported_eq_zero_iff]
    omega

/-- A compiler that dumps its core is a signal with one bit more, and behind two traps its end is
reported by 139 to the outer one too. -/
theorem codes_transparent_core_dump :
    let trap : Installed Unit := ⟨fun _ _ => true, fun _ _ => (.ok (), ()), "sh", [0x63, 0x63]⟩
    let words : Bytes × Unit → List Bytes := fun _ => []
    let dumped : Interpreter Unit := fun _ => (.ok 0x8B, ())
    IsSignalled 0x8B ∧ ((ofRaw 0x8B).exitCode : Int) = 128 + (signalBits 0x8B).toInt ∧
      (trap.run dumped [] ()).1.code = (ofRaw 0x8B).exitCode ∧
      (trap.run (behind words dumped [trap]) [] ()).1.code = 139 := by
  intro trap words dumped
  have signal : IsSignalled 0x8B := by decide
  obtain ⟨byWord, byTrap, byTraps⟩ := codes_transparent words dumped
  refine ⟨signal, ((byWord 0x8B).2.2.2.1 signal).1, ?_, (byTraps [] trap [trap] ([], ())).1⟩
  exact (byTrap trap [] ()).1 0x8B rfl

end Intercept.Trap
