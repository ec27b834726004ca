/-!
# How a child process ended

The host system tells how a child ended by one word. Its lowest seven bits are zero if the child
exited, and then the next eight bits hold its exit code; they are all ones if the child has not
ended; and otherwise they are the number of the signal that ended it.
-/

namespace Intercept

inductive WaitStatus where
  | exited (code : Fin 256)
  | signalled (signal : Nat)
  | unknown
  deriving DecidableEq, Repr

namespace WaitStatus

/-- The end of a child that gave a number as its code, of which the lowest eight bits are kept. -/
def ofCode (code : Nat) : WaitStatus := exited ⟨code % 256, Nat.mod_lt code (by decide)⟩

/-- What a status word says. -/
def ofRaw (raw : Int32) : WaitStatus :=
  let word := raw.toUInt32.toNat
  if word % 128 = 0 then ofCode (word / 256)
  else if word % 128 = 127 then unknown
  else signalled (word % 128)

/-- The exit code that reports the status: that of the child, 128 and the number of the signal, or
one where neither is known. -/
def exitCode : WaitStatus → Nat
  | exited code => code
  | signalled signal => 128 + signal
  | unknown => 1

end WaitStatus

end Intercept
