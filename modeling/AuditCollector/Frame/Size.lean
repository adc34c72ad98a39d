namespace AuditCollector.Frame

def headerLength : Nat := 16

-- Frames are padded to a multiple of this.
def alignment : Nat := 4

-- The longest request, header and padding included.
def maxRequestLength : Nat := 8970

def capacity : Nat := headerLength + maxRequestLength

-- The longest payload whose padded request is still short enough.
def maxPayloadLength : Nat := maxRequestLength / alignment * alignment - headerLength

-- The least multiple of the alignment that is not below `length`.
def align (length : Nat) : Nat := (length + (alignment - 1)) / alignment * alignment

-- The length of the request that carries a payload of the given length, if
-- there is one.
def requestLength? (payloadLength : Nat) : Option Nat :=
  let length := align (headerLength + payloadLength)
  if length ≤ maxRequestLength then some length else none

-- What stops the program: two machine words whose sum does not fit into one.
inductive Overflow where
  | sum
deriving DecidableEq, Repr

def addWord (a b : UInt64) : Except Overflow UInt64 :=
  if a.toNat + b.toNat < UInt64.size then .ok (a + b) else .error .sum

-- The least multiple of the alignment that is not below `length`, on machine words.
def alignWord (length : UInt64) : Except Overflow UInt64 := do
  let sum ← addWord length 4
  return (sum - 1) &&& ~~~3

-- The length of a request on machine words. That the header can be added is checked,
-- that the padding can is not.
def requestLengthWord? (payloadLength : UInt64) : Except Overflow (Option UInt64) :=
  match addWord 16 payloadLength with
  | .error _ => return none
  | .ok length => do
    let padded ← alignWord length
    return if padded ≤ 8970 then some padded else none

theorem align_eq (length : Nat) : align length = (length + 3) / 4 * 4 := rfl

theorem le_align (length : Nat) : length ≤ align length := by
  rw [align_eq]
  omega

theorem align_lt (length : Nat) : align length < length + 4 := by
  rw [align_eq]
  omega

theorem requestLength?_eq_some_iff {payloadLength length : Nat} :
    requestLength? payloadLength = some length ↔
      payloadLength ≤ maxPayloadLength ∧ length = align (headerLength + payloadLength) := by
  simp only [requestLength?, align_eq, headerLength, maxRequestLength, maxPayloadLength, alignment]
  grind

theorem requestLength?_eq_none_iff {payloadLength : Nat} :
    requestLength? payloadLength = none ↔ maxPayloadLength < payloadLength := by
  simp only [requestLength?, align_eq, headerLength, maxRequestLength, maxPayloadLength, alignment]
  grind

end AuditCollector.Frame
