import AuditCollector.Exchange.Basic
import AuditCollector.Rule.Layout

namespace AuditCollector

open AuditCollector.Frame

-- One side of the conversation with the kernel: the channel, and the number of
-- the last request.
structure Client (σ : Type) where
  channel : σ
  sequence : SequenceCounter := {}

namespace Client

variable {σ : Type} [Channel σ]

-- Takes the kernel's answer to the request `sequence` off the channel. The next
-- message is looked at first, and only a notice is taken. Other messages can
-- come in between, so an answer with a number of its own is told and accepted.
def awaitAck (s : σ) (sequence : UInt32) : Traced (Except ExchangeError Unit × σ) := do
  let (peeked, s, envelope) ← Exchange.receive s Envelope.zero .blocking .peekOnly
  match peeked with
  | .error error => return (.error error, s)
  | .ok none => return (.ok (), s)
  | .ok (some reply) =>
    if reply.notice?.isNone then compare s reply
    else
      let (taken, s, _) ← Exchange.receive s envelope .blocking .consume
      match taken with
      | .error error => return (.error error, s)
      | .ok none => compare s reply
      | .ok (some reply) =>
        match reply.notice? with
        | none => compare s reply
        | some notice =>
          if notice.isAck then compare s reply
          else return (.error (.kernel sequence (.os notice.errno)), s)
where
  compare (s : σ) (reply : Reply) : Traced (Except ExchangeError Unit × σ) := do
    if reply.sequence ≠ sequence then
      Traced.emit (.answerOutOfStep sequence reply.sequence)
    return (.ok (), s)

-- Sends a request and waits for its answer. Gives the number of the request.
def send (client : Client σ) (messageType : UInt16) (payload : Bytes) :
    Traced (Except ExchangeError UInt32 × Client σ) := do
  let (sent, channel, sequence) ←
    Exchange.send client.channel client.sequence messageType payload
  match sent with
  | .error error => return (.error error, ⟨channel, sequence⟩)
  | .ok number =>
    let (answered, channel) ← awaitAck channel number
    return (answered.map fun _ => number, ⟨channel, sequence⟩)

-- The state that asks for messages to go to `pid`.
def registration (pid : UInt32) : Status := { mask := Status.Part.pid.bit, pid }

-- Looks for one more message without waiting and throws it away. After a
-- registration the kernel may send its status, but after a restart of the daemon
-- it does not always do so.
def discardFollowUp (s : σ) : Traced σ := do
  let (received, s, _) ← Exchange.receive s Envelope.zero .nonBlocking .consume
  match received with
  | .ok (some reply) => Traced.emit (.followUpDiscarded reply.messageType)
  | .ok none => pure ()
  | .error error => Traced.emit (.followUpMissing error)
  return s

-- Makes `pid` the consumer of audit messages, or nobody if it is zero.
def setPid (client : Client σ) (pid : UInt32) (discard : Bool) :
    Traced (Except ExchangeError Unit × Client σ) := do
  let (sent, client) ← client.send Envelope.setStatusType (registration pid).toBytes
  match sent with
  | .error error =>
    Traced.emit (.registrationFailed pid error)
    return (.error error, client)
  | .ok _ =>
    if discard then
      let channel ← discardFollowUp client.channel
      return (.ok (), { client with channel })
    else return (.ok (), client)

def setEnabled (client : Client σ) (state : EnabledState) :
    Traced (Except ExchangeError UInt32 × Client σ) :=
  let status : Status := { mask := Status.Part.enabled.bit, enabled := state.toUInt32 }
  client.send Envelope.setStatusType status.toBytes

def addRule (client : Client σ) (rule : Rule) :
    Traced (Except ExchangeError UInt32 × Client σ) :=
  client.send Envelope.addRuleType rule.toBytes

end Client

end AuditCollector
