import Intercept.Shell.Variables

/-!
# Loops

A loop carries out its body until its condition fails, or once for each of some values. What a
command asks to be skipped may end the round, or the loop, or loops around it.
-/

namespace Intercept.Shell

/-- Whether a loop ends before its time. -/
def Skip.leavesLoop : Skip → Bool
  | nothing => false
  | loops _ resumes => !resumes
  | function _ => true

/-- Takes the loop that has come to the end of a round from those that are left, and gives what was
skipped, as the loop sees it. -/
def endRound : Action Skip := do
  let p ← get
  match p.skip with
  | .loops count resumes =>
    if count ≤ 1 then
      set { p with skip := .nothing }
      return .loops 0 resumes
    set { p with skip := .loops (count - 1) resumes }
    return .loops 0 false
  | skip => return skip

/-- Carries out a loop, inside which the loop can be left. -/
def inLoop (loop : Action Nat) : Action Nat := do
  modify fun p => { p with loops := p.loops + 1 }
  loop.andThen fun p => { p with loops := p.loops - 1 }

/-- Carries out a body as long as a condition holds, or fails, and gives the status of the last
round. The number of rounds is limited. Something may be done behind each round. -/
def repeatBody (untilTrue : Bool) (condition body : Action Nat) (rounds status : Nat)
    (behind : Action Unit := pure ()) : Action Nat := do
  match rounds with
  | 0 => throw .exhausted
  | rounds + 1 =>
    let tested ← condition
    match ← endRound with
    | .nothing =>
      if (tested = 0) = untilTrue then return status
      let status ← body
      if (← endRound).leavesLoop then return status
      behind
      repeatBody untilTrue condition body rounds status behind
    | .function true => return tested
    | skip =>
      if skip.leavesLoop then return status
      repeatBody untilTrue condition body rounds status behind

/-- Carries out a body for each of some values of a variable. -/
def repeatFor (name : Bytes) (body : Action Nat) : List Bytes → Nat → Action Nat
  | [], status => return status
  | value :: values, _ => do
    setVariable name value
    let status ← body
    if (← endRound).leavesLoop then return status
    repeatFor name body values status

end Intercept.Shell
