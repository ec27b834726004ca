import Intercept.Record

/-!
# A log in memory
-/

namespace Intercept

/-- The records that were appended, first to last. -/
structure MemoryLog where
  records : List Record := []
  deriving DecidableEq, Repr

namespace MemoryLog

def append (log : MemoryLog) (r : Record) : MemoryLog := { records := log.records ++ [r] }

/-- The bytes that a file would hold after the same appends. -/
def contents (log : MemoryLog) : Bytes := Record.allToBytes log.records

theorem contents_append (log : MemoryLog) (r : Record) :
    (log.append r).contents = log.contents ++ r.toBytes := by
  simp [append, contents, Record.allToBytes]

end MemoryLog

end Intercept
