import AuditCollector.Channel
import AuditCollector.SequenceCounter

namespace AuditCollector.Exchange

open AuditCollector.Frame

variable {σ : Type} [Channel σ]

-- Trusts a received message only if it comes from the kernel and is a valid
-- frame. Where it comes from is asked first.
def accept (envelope : Envelope) (datagram : Datagram) :
    Traced (Except ExchangeError (Option Reply)) := do
  let sender := datagram.sender
  if sender.addressLength ≠ Sender.kernelAddressLength then
    Traced.emit (.senderAddressOdd sender.addressLength)
    return .error (.protocolFault ("sender address length " ++ toString sender.addressLength
      ++ " (expected " ++ toString Sender.kernelAddressLength ++ ")"))
  else if sender.pid ≠ 0 then
    Traced.emit (.senderNotKernel sender.pid)
    return .error (.spoofedSender sender.pid)
  else
    match envelope.decode datagram.length with
    | .ok reply => return .ok (some reply)
    | .error error =>
      Traced.emit (.responseBad error)
      return .error (.frame error)

-- Receives one message into the envelope. There is no message only where a
-- receive that does not wait finds nothing.
def receive (s : σ) (envelope : Envelope) (mode : ReceiveMode) (peek : Peek) :
    Traced (Except ExchangeError (Option Reply) × σ × Envelope) := do
  match Channel.receiveRepeatedly s capacity mode peek with
  | (.ok datagram, s) =>
    let envelope := envelope.overlay datagram.bytes
    let result ← accept envelope datagram
    return (result, s, envelope)
  | (.error error, s) =>
    if error = .wouldBlock ∧ mode = .nonBlocking then
      return (.ok none, s, envelope)
    else
      Traced.emit (.receiveFailed error)
      return (.error (.io error), s, envelope)

-- What becomes of the channel is up to the channel alone.
theorem channel_receive (s : σ) (envelope : Envelope) (mode : ReceiveMode) (peek : Peek) :
    (receive s envelope mode peek).value.2.1
      = (Channel.receiveRepeatedly s capacity mode peek).2 := by
  rcases h : Channel.receiveRepeatedly s capacity mode peek with ⟨result, s'⟩
  cases result with
  | ok datagram => simp [receive, h]
  | error error =>
    simp only [receive, h]
    split <;> simp

-- Sends a request under the next number and gives that number. A payload that is
-- too long is refused before the count moves.
def send (s : σ) (counter : SequenceCounter) (messageType : UInt16) (payload : Bytes) :
    Traced (Except ExchangeError UInt32 × σ × SequenceCounter) := do
  match requestLength? payload.length with
  | none =>
    Traced.emit (.requestTooLarge payload.length)
    return (.error (.payloadTooLarge payload.length maxPayloadLength), s, counter)
  | some length =>
    let (sequence, counter) ← counter.advance
    match Channel.sendRepeatedly s (Envelope.requestBytes length messageType sequence payload) with
    | (.ok sent, s) =>
      if sent = length then
        Traced.emit (.requestSent messageType sequence length)
        return (.ok sequence, s, counter)
      else
        return (.error (.protocolFault ("short send: " ++ toString sent ++ " of "
          ++ toString length ++ " bytes")), s, counter)
    | (.error error, s) =>
      Traced.emit (.sendFailed error)
      return (.error (.io error), s, counter)

end AuditCollector.Exchange
