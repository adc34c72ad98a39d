import AuditCollector.Exchange.Basic
import AuditCollector.Proofs.Frame.Received
import AuditCollector.Scripted.Socket

namespace AuditCollector

open AuditCollector.Frame AuditCollector.Scripted

namespace Frame.Reply

-- What is sent to be recorded, as opposed to what answers us.
def isEvent (reply : Reply) : Bool :=
  match reply.body with
  | .message _ => true
  | _ => false

def isStatus (reply : Reply) : Bool :=
  match reply.body with
  | .status _ => true
  | _ => false

theorem notice?_of_isEvent {reply : Reply} (h : reply.isEvent = true) : reply.notice? = none := by
  unfold isEvent at h
  unfold notice?
  split at h
  · rename_i hbody
    rw [hbody]
  · cases h

theorem notice?_of_isStatus {reply : Reply} (h : reply.isStatus = true) : reply.notice? = none := by
  unfold isStatus at h
  unfold notice?
  split at h
  · rename_i hbody
    rw [hbody]
  · cases h

theorem isEvent_of_notice? {reply : Reply} {notice : Notice} (h : reply.notice? = some notice) :
    reply.isEvent = false := by
  cases hevent : reply.isEvent with
  | false => rfl
  | true =>
    rw [notice?_of_isEvent hevent] at h
    cases h

theorem isStatus_of_notice? {reply : Reply} {notice : Notice} (h : reply.notice? = some notice) :
    reply.isStatus = false := by
  cases hstatus : reply.isStatus with
  | false => rfl
  | true =>
    rw [notice?_of_isStatus hstatus] at h
    cases h

end Frame.Reply

-- A message of the kernel that is well formed: it fits, and reads as the same reply in
-- whatever envelope it is received.
structure Delivery where
  frame : Bytes
  reply : Reply
  fits : frame.length ≤ capacity
  reads : ∀ envelope : Envelope, (envelope.overlay frame).decode frame.length = .ok reply

namespace Delivery

def inbound (delivery : Delivery) : Inbound :=
  .message delivery.frame ⟨Sender.kernelAddressLength, 0⟩ none false

-- The message of some type with a payload that makes sense for the type.
def ofPayload (messageType : UInt16) (sequence : UInt32) (payload : Bytes) (body : Body)
    (hbody : Body.parse? messageType payload = some body)
    (hfits : headerLength + payload.length ≤ capacity) : Delivery :=
  let header : Header := {
    length := UInt32.ofNat (headerLength + payload.length)
    messageType, flags := 0, sequence, pid := 0 }
  have hclaimed : header.length.toNat = headerLength + payload.length := by
    have hword : capacity < 2 ^ 32 := by decide
    rw [UInt32.toNat_ofNat', Nat.mod_eq_of_lt (by omega)]
  have hlength : (header.toBytes ++ payload).length = headerLength + payload.length := by
    rw [List.length_append, Header.length_toBytes]
  { frame := header.toBytes ++ payload
    reply := { header, payload, body }
    fits := by omega
    reads := fun envelope => by
      rw [hlength]
      exact envelope.decode_overlay_toBytes hclaimed hfits hbody }

end Delivery

namespace Scripted.Socket

variable {socket : Socket} {delivery : Delivery} {rest : List Inbound}

-- Without a plan for the sends, the kernel gets every request whole.
theorem sendRepeatedly_of_unplanned (hsends : socket.sends = []) (frame : Bytes) :
    Channel.sendRepeatedly socket frame =
      (.ok frame.length, { socket with sent := socket.sent ++ [frame] }) := by
  apply Channel.sendRepeatedly_of_ok
  change socket.send frame = _
  rw [send, hsends]

-- The socket after a receive, which takes what it finds or leaves it.
def received (socket : Socket) (peek : Peek) : Socket := { socket with
  inbound := if peek = .consume then socket.inbound.tail else socket.inbound
  receives := socket.receives + 1 }

theorem receive_of_delivery (hinbound : socket.inbound = delivery.inbound :: rest)
    (envelope : Envelope) (mode : ReceiveMode) (peek : Peek) :
    (Exchange.receive socket envelope mode peek).value =
      (.ok (some delivery.reply), socket.received peek, envelope.overlay delivery.frame) := by
  have hwhole : delivery.frame.take capacity = delivery.frame :=
    List.take_of_length_le delivery.fits
  have hfirst : Channel.receiveRepeatedly socket capacity mode peek =
      (.ok ⟨delivery.frame, delivery.frame.length, ⟨Sender.kernelAddressLength, 0⟩⟩,
        socket.received peek) := by
    apply Channel.receiveRepeatedly_of_ok
    change socket.receive capacity mode peek = _
    rw [receive, hinbound]
    cases peek
    · simp only [Delivery.inbound, hwhole, received, hinbound]
      rfl
    · simp only [Delivery.inbound, hwhole, received, hinbound]
      rfl
  simp only [Exchange.receive, hfirst, Exchange.accept, ne_eq, not_true_eq_false, if_false,
    delivery.reads]
  rfl

-- A receive that does not wait finds nothing in an empty queue.
theorem receive_of_empty (hinbound : socket.inbound = []) (envelope : Envelope) (peek : Peek) :
    (Exchange.receive socket envelope .nonBlocking peek).value =
      (.ok none, socket.received peek, envelope) := by
  have hnothing : Channel.receiveRepeatedly socket capacity .nonBlocking peek =
      (.error .wouldBlock, socket.received peek) := by
    have hreceive : Channel.receive socket capacity .nonBlocking peek =
        (.error .wouldBlock, socket.received peek) := by
      change socket.receive capacity .nonBlocking peek = _
      rw [receive, hinbound]
      simp [received, hinbound]
    rw [Channel.receiveRepeatedly_of_error hreceive, if_neg (by decide)]
  simp only [Exchange.receive, hnothing]
  rfl

end Scripted.Socket

end AuditCollector
