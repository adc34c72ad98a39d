import AuditCollector.Traced

namespace AuditCollector

-- The numbers that tell requests apart. The kernel echoes 32 bits, but only a
-- non-negative 16-bit number passes every word size unchanged, so the count
-- restarts at zero where the next number would be negative.
structure SequenceCounter where
  current : Int16 := 0
deriving DecidableEq, Repr

namespace SequenceCounter

-- A negative start counts as zero.
def startingAt (value : Int16) : SequenceCounter := ⟨if value < 0 then 0 else value⟩

def advance (counter : SequenceCounter) : Traced (UInt32 × SequenceCounter) := do
  let next := counter.current + 1
  let current ←
    if next < 0 then do
      Traced.emit .sequenceRestarted
      pure 0
    else pure next
  return (current.toInt32.toUInt32, ⟨current⟩)

end SequenceCounter

end AuditCollector
