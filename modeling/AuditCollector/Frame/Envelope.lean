import AuditCollector.Frame.Header

namespace AuditCollector.Frame

-- The buffer that one frame is built in or received into. What an earlier frame
-- left behind stays until something is written over it.
structure Envelope where
  bytes : Bytes
  length_eq : bytes.length = capacity
deriving DecidableEq

namespace Envelope

def zero : Envelope := ⟨List.replicate capacity 0, by simp⟩

-- Overwrites the bytes from `offset` on. What would stick out is cut off.
def write (envelope : Envelope) (offset : Nat) (data : Bytes) : Envelope where
  bytes := (envelope.bytes.take offset ++ data ++
    envelope.bytes.drop (offset + data.length)).take capacity
  length_eq := by
    simp only [List.length_take, List.length_append, List.length_drop, envelope.length_eq]
    omega

def overlay (envelope : Envelope) (data : Bytes) : Envelope := envelope.write 0 data

theorem bytes_overlay (envelope : Envelope) (data : Bytes) :
    (envelope.overlay data).bytes
      = data.take capacity ++ envelope.bytes.drop data.length := by
  have := envelope.length_eq
  simp only [overlay, write, List.take_zero, List.nil_append, Nat.zero_add, List.take_append]
  congr 1
  apply List.take_of_length_le
  simp [this]

def header (envelope : Envelope) : Header := (Header.parse? envelope.bytes).getD default

def errorType : UInt16 := 2
def statusType : UInt16 := 1000
def setStatusType : UInt16 := 1001
def signalInfoType : UInt16 := 1010
def addRuleType : UInt16 := 1011
def deleteRuleType : UInt16 := 1012
def listRulesType : UInt16 := 1013

-- Every request asks to be acknowledged.
def requestFlag : UInt16 := 1
def acknowledgeFlag : UInt16 := 4

def requestHeader (length : Nat) (messageType : UInt16) (sequence : UInt32) : Header where
  length := UInt32.ofNat length
  messageType := messageType
  flags := requestFlag ||| acknowledgeFlag
  sequence := sequence
  pid := 0

-- The request as it goes over the wire: header, payload, and zeros as padding.
def requestBytes (length : Nat) (messageType : UInt16) (sequence : UInt32)
    (payload : Bytes) : Bytes :=
  (requestHeader length messageType sequence).toBytes ++ payload ++
    List.replicate (length - (headerLength + payload.length)) 0

-- Builds a request at the front of the buffer and gives its length, unless the
-- payload is too long. Then the buffer stays as it was.
def encodeRequest? (envelope : Envelope) (messageType : UInt16) (sequence : UInt32)
    (payload : Bytes) : Option (Nat × Envelope) := do
  let length ← requestLength? payload.length
  return (length, envelope.overlay (requestBytes length messageType sequence payload))

theorem length_requestBytes {length : Nat} {payload : Bytes}
    (h : requestLength? payload.length = some length) (messageType : UInt16)
    (sequence : UInt32) : (requestBytes length messageType sequence payload).length = length := by
  have := (requestLength?_eq_some_iff.mp h).2
  have := le_align (headerLength + payload.length)
  simp [requestBytes]
  omega

-- How an envelope is shown to a person: only what it starts with.
def describe (envelope : Envelope) : String :=
  "Envelope \x7b header: " ++ envelope.header.describe ++ ", .. \x7d"

end Envelope

end AuditCollector.Frame
