/-!
# Languages of commands

One shell understands the standard language of commands, another one an extension of it. They also
differ in what they say, and in what a failure comes to.
-/

namespace Intercept.Shell

/-- Which language of commands a shell understands. -/
inductive Language where
  | standard
  /-- The standard language with more signs, expansions and commands. -/
  | extended
  deriving DecidableEq, Repr

namespace Language

def isExtended (language : Language) : Bool := language = .extended

/-- The status of a command of the shell that fails. -/
def failure : Language → Nat
  | standard => 2
  | extended => 1

end Language

end Intercept.Shell
