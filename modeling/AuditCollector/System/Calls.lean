import AuditCollector.Channel

namespace AuditCollector

-- The system calls under a kernel socket, with `ω` the system they are made to.
-- `remaining` and its laws are those of a channel.
class SystemCalls (ω : Type) where
  -- From then on the signal asks for a stop.
  registerSignal : ω → (signal : Nat) → Except IoError Unit × ω
  socket : ω → (domain type protocol : Nat) → Except IoError Nat × ω
  sendTo : ω → (descriptor : Nat) → Bytes → (flags : Nat) → (address : Bytes) →
    Except IoError Nat × ω
  receiveFrom : ω → (descriptor size flags addressSize : Nat) → Except IoError Datagram × ω
  poll : ω → (descriptor events : Nat) → (timeout : Int) → Except IoError Nat × ω
  close : ω → (descriptor : Nat) → Except IoError Unit × ω
  stopRequested : ω → Bool
  remaining : ω → Nat
  send_interrupted {w w' : ω} {descriptor flags : Nat} {data address : Bytes} :
    sendTo w descriptor data flags address = (.error .interrupted, w') →
      remaining w' < remaining w
  receive_le {w w' : ω} {descriptor size flags addressSize : Nat}
      {result : Except IoError Datagram} :
    receiveFrom w descriptor size flags addressSize = (result, w') → remaining w' ≤ remaining w
  receive_interrupted {w w' : ω} {descriptor size flags addressSize : Nat} :
    receiveFrom w descriptor size flags addressSize = (.error .interrupted, w') →
      remaining w' < remaining w
  -- Only a receive that does not wait finds nothing without using anything up.
  receive_would_block {w w' : ω} {descriptor size flags addressSize : Nat} :
    receiveFrom w descriptor size flags addressSize = (.error .wouldBlock, w') →
      flags &&& 0x40 = 0 → remaining w' < remaining w
  poll_not_ready {w w' : ω} {descriptor events : Nat} {timeout : Int}
      {result : Except IoError Nat} :
    poll w descriptor events timeout = (result, w') → (∀ n, result ≠ .ok (n + 1)) →
      remaining w' < remaining w ∨ stopRequested w' = true
  poll_ready {w w' w'' : ω} {descriptor events size addressSize n : Nat} {timeout : Int}
      {result : Except IoError Datagram} :
    poll w descriptor events timeout = (.ok (n + 1), w') →
      receiveFrom w' descriptor size 0 addressSize = (result, w'') → remaining w'' < remaining w

end AuditCollector
