import AuditCollector.Proofs.Client.Send
import AuditCollector.Proofs.Exchange.Receive

namespace AuditCollector

open AuditCollector.Frame

namespace Frame

variable {envelope : Envelope} {length : Nat} {reply : Reply}

theorem Reply.notice?_eq_some_iff {notice : Notice} :
    reply.notice? = some notice ↔ reply.body = .notice notice := by
  unfold notice?
  cases reply.body with
  | notice other => simp
  | _ => simp

-- Whether a frame is a notice is up to its type.
theorem Body.exists_notice_iff {messageType : UInt16} {payload : Bytes} {body : Body}
    (h : Body.parse? messageType payload = some body) :
    (∃ notice, body = .notice notice) ↔ messageType = 2 := by
  by_cases herror : messageType = Envelope.errorType
  · rw [Body.parse?, if_pos herror, Option.map_eq_some_iff] at h
    obtain ⟨notice, -, rfl⟩ := h
    exact ⟨fun _ => herror, fun _ => ⟨notice, rfl⟩⟩
  · refine ⟨?_, fun htype => absurd htype herror⟩
    rintro ⟨notice, rfl⟩
    rw [Body.parse?, if_neg herror] at h
    grind [Option.map_eq_some_iff]

theorem Envelope.notice?_eq_none_iff (h : envelope.decode length = .ok reply) :
    reply.notice? = none ↔ reply.messageType ≠ 2 := by
  rw [ne_eq, ← Body.exists_notice_iff (parse?_of_decode h), Option.eq_none_iff_forall_ne_some]
  simp only [ne_eq, Reply.notice?_eq_some_iff, not_exists]

end Frame

namespace Datagram

variable {datagram : Datagram}

-- What a message says, if it is a valid frame.
def decoded (datagram : Datagram) : Except FrameError Reply :=
  (Envelope.zero.overlay datagram.bytes).decode datagram.length

-- Whether a message is the kernel's verdict on a request.
def isNotice (datagram : Datagram) : Bool :=
  decide datagram.sender.IsKernel && datagram.decoded.toOption.any (·.messageType == 2)

-- How a wait for the answer to a request ends when it meets a message, and whether it takes the
-- message. Nothing but the verdict in the message counts.
inductive Ends (datagram : Datagram) (sequence : UInt32) : Except ExchangeError Unit → Bool → Prop where
  | misaddressed (haddress : datagram.sender.addressLength ≠ 12) :
    Ends datagram sequence (.error (.protocolFault ("sender address length " ++
      toString datagram.sender.addressLength ++ " (expected 12)"))) false
  | spoofed (haddress : datagram.sender.addressLength = 12) (hpid : datagram.sender.pid ≠ 0) :
    Ends datagram sequence (.error (.spoofedSender datagram.sender.pid)) false
  | malformed {error : FrameError} (hkernel : datagram.sender = ⟨12, 0⟩)
    (hdecoded : datagram.decoded = .error error) : Ends datagram sequence (.error (.frame error)) false
  | other {reply : Reply} (hkernel : datagram.sender = ⟨12, 0⟩) (hdecoded : datagram.decoded = .ok reply)
    (htype : reply.messageType ≠ 2) : Ends datagram sequence (.ok ()) false
  | acknowledged {reply : Reply} {notice : Notice} (hkernel : datagram.sender = ⟨12, 0⟩)
    (hdecoded : datagram.decoded = .ok reply) (htype : reply.messageType = 2)
    (hnotice : reply.body = .notice notice) (hcode : notice.code = 0) : Ends datagram sequence (.ok ()) true
  | refused {reply : Reply} {notice : Notice} (hkernel : datagram.sender = ⟨12, 0⟩)
    (hdecoded : datagram.decoded = .ok reply) (htype : reply.messageType = 2)
    (hnotice : reply.body = .notice notice) (hcode : notice.code ≠ 0) :
    Ends datagram sequence (.error (.kernel sequence
      (.os (if notice.code = Int32.minValue then 2147483647 else -notice.code.toInt)))) true

-- Only the kernel's verdicts are taken.
theorem Ends.isNotice {sequence : UInt32} {result : Except ExchangeError Unit}
    (h : datagram.Ends sequence result true) : datagram.isNotice = true := by
  cases h with
  | acknowledged hkernel hdecoded htype =>
    rw [Datagram.isNotice, hdecoded, Bool.and_eq_true, decide_eq_true_eq]
    exact ⟨hkernel, beq_iff_eq.mpr htype⟩
  | refused hkernel hdecoded htype =>
    rw [Datagram.isNotice, hdecoded, Bool.and_eq_true, decide_eq_true_eq]
    exact ⟨hkernel, beq_iff_eq.mpr htype⟩

end Datagram

namespace Exchange

variable {datagram : Datagram}

-- A message that is not accepted ends a wait where it is looked at.
theorem accept_ends (datagram : Datagram) (sequence : UInt32) :
    let accepted := (accept (Envelope.zero.overlay datagram.bytes) datagram).value
    (∃ error, accepted = .error error ∧ datagram.Ends sequence (.error error) false) ∨
      ∃ reply, accepted = .ok (some reply) ∧ datagram.sender = ⟨12, 0⟩ ∧ datagram.decoded = .ok reply := by
  have hdecides := accept_decides Envelope.zero .blocking datagram
  generalize (accept (Envelope.zero.overlay datagram.bytes) datagram).value = accepted at hdecides ⊢
  cases hdecides with
  | misaddressed haddress => exact .inl ⟨_, rfl, .misaddressed haddress⟩
  | spoofed haddress hpid => exact .inl ⟨_, rfl, .spoofed haddress hpid⟩
  | malformed hkernel hdecoded => exact .inl ⟨_, rfl, .malformed hkernel hdecoded⟩
  | accepted hkernel hdecoded => exact .inr ⟨_, rfl, hkernel, hdecoded⟩

end Exchange

namespace Client

variable {σ : Type} [Channel σ] {s s' s'' : σ} {datagram : Datagram}

-- A wait that is shown a message, and on the second try gets the same one or fails, ends as the
-- message says or fails with that try.
theorem awaitAck_of_peeked {taken : Except IoError Datagram} (hbacked : datagram.IsBacked)
    (hpeek : Channel.receiveRepeatedly s capacity .blocking .peekOnly = (.ok datagram, s'))
    (htake : Channel.receiveRepeatedly s' capacity .blocking .consume = (taken, s''))
    (hsame : ∀ again, taken = .ok again → again = datagram) (sequence : UInt32) :
    let run := (awaitAck s sequence).value
    (datagram.Ends sequence run.1 false ∧ run.2 = s') ∨
      (datagram.Ends sequence run.1 true ∧ taken = .ok datagram ∧ run.2 = s'') ∨
      ∃ error, taken = .error error ∧ run = (.error (.io error), s'') := by
  intro run
  have hpeeked := Exchange.receive_of_ok hpeek Envelope.zero
  rcases Exchange.accept_ends datagram sequence with
    ⟨error, haccept, hends⟩ | ⟨reply, haccept, hkernel, hdecoded⟩
  · rw [haccept] at hpeeked
    have hrun : run = _ := awaitAck_of_peek_error hpeeked sequence
    rw [hrun]
    exact .inl ⟨hends, rfl⟩
  rw [haccept] at hpeeked
  by_cases htype : reply.messageType = 2
  · obtain ⟨notice, hbody⟩ := (Body.exists_notice_iff (Envelope.parse?_of_decode hdecoded)).mpr htype
    have hnotice := Reply.notice?_eq_some_iff.mpr hbody
    cases taken with
    | error error =>
      have htaken := Exchange.receive_of_error htake (Envelope.zero.overlay datagram.bytes)
      rw [if_neg (by simp)] at htaken
      exact .inr (.inr ⟨error, rfl, awaitAck_of_take_error hpeeked hnotice htaken sequence⟩)
    | ok again =>
      obtain rfl := hsame again rfl
      have htaken := Exchange.receive_of_ok htake (Envelope.zero.overlay again.bytes)
      -- the envelope still holds what was looked at, and that makes no difference
      have hagain := (Envelope.decode_overlay_eq_ok (Envelope.zero.overlay again.bytes) hbacked hdecoded).1
      rw [Exchange.accept_of_kernel hkernel, hagain] at htaken
      have hseen : reply.notice?.isSome := by rw [hnotice, Option.isSome_some]
      have hrun : run = _ := awaitAck_of_notice hpeeked hseen htaken hnotice sequence
      rw [hrun]
      refine .inr (.inl ⟨?_, rfl, rfl⟩)
      by_cases hcode : notice.code = 0
      · rw [if_pos hcode]
        exact .acknowledged hkernel hdecoded htype hbody hcode
      · rw [if_neg hcode]
        exact .refused hkernel hdecoded htype hbody hcode
  · have hother := (Envelope.notice?_eq_none_iff hdecoded).mpr htype
    have hrun : run = _ := awaitAck_of_no_notice hpeeked hother sequence
    rw [hrun]
    exact .inl ⟨.other hkernel hdecoded htype, rfl⟩

end Client

end AuditCollector
