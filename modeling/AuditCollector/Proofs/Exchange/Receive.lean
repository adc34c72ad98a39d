import AuditCollector.Proofs.Channel.Twins
import AuditCollector.Proofs.Channel.View
import AuditCollector.Proofs.Frame.Decoding

namespace AuditCollector

open AuditCollector.Frame

variable {σ : Type} [Channel σ]

-- The reply is what the bytes say, as far as their own header claims them.
structure Frame.Reply.ReadFrom (reply : Reply) (bytes : Bytes) : Prop where
  header : Header.parse? bytes = some reply.header
  payload : reply.payload = (bytes.take reply.header.length.toNat).drop headerLength
  body : Body.parse? reply.messageType reply.payload = some reply.body

theorem Datagram.IsBacked.readFrom {datagram : Datagram} {envelope : Envelope} {reply : Reply}
    (hbacked : datagram.IsBacked)
    (hdecoded : (envelope.overlay datagram.bytes).decode datagram.length = .ok reply) :
    reply.ReadFrom datagram.bytes := by
  obtain ⟨hheader, hmin, hmax, -, -⟩ := Envelope.decode_eq_ok hdecoded
  have hlength : headerLength ≤ datagram.bytes.length :=
    hmin.trans (hmax.trans hbacked)
  refine ⟨?_, (Envelope.decode_overlay_eq_ok envelope hbacked hdecoded).2,
    Envelope.parse?_of_decode hdecoded⟩
  rw [hheader, Envelope.header_overlay envelope hlength, Header.parse?, if_neg (Nat.not_lt.mpr hlength),
    Option.getD_some]

namespace Exchange

-- What a receive comes to, by the outcome of its last call. Where a message is from is asked
-- before what it says.
inductive Decides (envelope : Envelope) (mode : ReceiveMode) :
    Except IoError Datagram → Except ExchangeError (Option Reply) → Prop where
  | nothing (hmode : mode = .nonBlocking) : Decides envelope mode (.error (.os 11)) (.ok none)
  | failed {error : IoError} (herror : ¬(error = .os 11 ∧ mode = .nonBlocking)) :
    Decides envelope mode (.error error) (.error (.io error))
  | misaddressed {datagram : Datagram} (haddress : datagram.sender.addressLength ≠ 12) :
    Decides envelope mode (.ok datagram) (.error (.protocolFault ("sender address length " ++
      toString datagram.sender.addressLength ++ " (expected 12)")))
  | spoofed {datagram : Datagram} (haddress : datagram.sender.addressLength = 12)
    (hpid : datagram.sender.pid ≠ 0) :
    Decides envelope mode (.ok datagram) (.error (.spoofedSender datagram.sender.pid))
  | malformed {datagram : Datagram} {error : FrameError} (hkernel : datagram.sender = ⟨12, 0⟩)
    (hdecoded : (envelope.overlay datagram.bytes).decode datagram.length = .error error) :
    Decides envelope mode (.ok datagram) (.error (.frame error))
  | accepted {datagram : Datagram} {reply : Reply} (hkernel : datagram.sender = ⟨12, 0⟩)
    (hdecoded : (envelope.overlay datagram.bytes).decode datagram.length = .ok reply) :
    Decides envelope mode (.ok datagram) (.ok (some reply))

-- What is made of a message of the kernel is up to its frame.
theorem accept_of_kernel {datagram : Datagram} (hkernel : datagram.sender.IsKernel) (envelope : Envelope) :
    (accept envelope datagram).value =
      match envelope.decode datagram.length with
      | .ok reply => .ok (some reply)
      | .error error => .error (.frame error) := by
  unfold accept
  rw [hkernel]
  simp only [ne_eq, not_true_eq_false, if_false]
  cases envelope.decode datagram.length with
  | ok reply => rfl
  | error error => rfl

theorem accept_decides (envelope : Envelope) (mode : ReceiveMode) (datagram : Datagram) :
    Decides envelope mode (.ok datagram) (accept (envelope.overlay datagram.bytes) datagram).value := by
  by_cases haddress : datagram.sender.addressLength = Sender.kernelAddressLength
  · by_cases hpid : datagram.sender.pid = 0
    · have hkernel : datagram.sender.IsKernel := by rw [Sender.IsKernel, ← haddress, ← hpid]
      rw [accept_of_kernel hkernel]
      rcases hdecoded : (envelope.overlay datagram.bytes).decode datagram.length with error | reply
      · exact .malformed hkernel hdecoded
      · exact .accepted hkernel hdecoded
    · simp only [accept, haddress, hpid, ne_eq, not_true_eq_false, not_false_eq_true, if_false, if_true,
        Traced.value_bind, Traced.value_pure]
      exact .spoofed haddress hpid
  · have htext : " (expected " ++ toString Sender.kernelAddressLength ++ ")" = " (expected 12)" := by
      decide +kernel
    have hdecides := @Decides.misaddressed envelope mode datagram haddress
    simpa only [accept, haddress, ne_eq, not_false_eq_true, if_true, Traced.value_bind, Traced.value_pure,
      ← htext, String.append_assoc] using hdecides

theorem receive_decides_of_repeated {s s' : σ} {mode : ReceiveMode} {peek : Peek}
    {outcome : Except IoError Datagram}
    (h : Channel.receiveRepeatedly s capacity mode peek = (outcome, s')) (envelope : Envelope) :
    Decides envelope mode outcome (receive s envelope mode peek).value.1 := by
  cases outcome with
  | ok datagram =>
    rw [receive_of_ok h]
    exact accept_decides envelope mode datagram
  | error error =>
    rw [receive_of_error h]
    by_cases hnothing : error = .wouldBlock ∧ mode = .nonBlocking
    · rw [if_pos hnothing, hnothing.1]
      exact .nothing hnothing.2
    · rw [if_neg hnothing]
      exact .failed hnothing

-- Whatever channel it is made on: a receive makes its call again, with the same mode and the same
-- peek, after each interruption and, if it waits, after each call that found nothing, and as often
-- as that. The first other outcome decides. There is no message only where a receive that does not
-- wait found none, and a reply only where the kernel sent the last message. The reply is made of no
-- more than was reported for that message, and if as much had arrived, of the message alone, whatever
-- the envelope held.
theorem receive_decides (s : σ) (earlier : List ChannelCall) (envelope : Envelope) (mode : ReceiveMode)
    (peek : Peek) :
    let received := (receive (⟨s, earlier⟩ : Overheard σ) envelope mode peek).value
    receive s envelope mode peek =
        (fun received => (received.1, received.2.1.channel, received.2.2)) <$>
          receive (⟨s, earlier⟩ : Overheard σ) envelope mode peek ∧
      ∃ (retried : List IoError) (outcome : Except IoError Datagram),
        received.2.1.calls = earlier ++ retried.map (fun error => .receive mode peek (.error error)) ++
          [.receive mode peek outcome] ∧
        (∀ error ∈ retried, error = .os 4 ∨ (mode = .blocking ∧ error = .os 11)) ∧
        (∀ error, outcome = .error error → ¬(error = .os 4 ∨ (mode = .blocking ∧ error = .os 11))) ∧
        Decides envelope mode outcome received.1 ∧
        (received.1 = .ok none → mode = .nonBlocking) ∧
        ∀ reply, received.1 = .ok (some reply) → ∃ datagram, outcome = .ok datagram ∧
          datagram.sender = ⟨12, 0⟩ ∧
          (∀ other : Envelope, (other.overlay datagram.bytes).bytes.take datagram.length =
              (envelope.overlay datagram.bytes).bytes.take datagram.length →
            (receive s other mode peek).value.1 = .ok (some reply)) ∧
          (datagram.IsBacked → reply.ReadFrom datagram.bytes ∧
            ∀ other : Envelope, (receive s other mode peek).value.1 = .ok (some reply)) := by
  intro received
  rcases hrepeated : Channel.receiveRepeatedly s capacity mode peek with ⟨outcome, s'⟩
  obtain ⟨calls, hreceives, hheard⟩ := receive_overheard earlier hrepeated envelope
  obtain ⟨retried, rfl, hretried, hdecided⟩ := hreceives.exists_retried
  have hresult : received.1 = (receive s envelope mode peek).value.1 := congrArg Prod.fst hheard
  have hdecides : Decides envelope mode outcome received.1 := by
    rw [hresult]
    exact receive_decides_of_repeated hrepeated envelope
  refine ⟨(Overheard.view σ).exchange_receive ⟨s, earlier⟩ envelope mode peek, retried, outcome, ?_,
    hretried, hdecided, hdecides, fun hnone => ?_, fun reply hreply => ?_⟩
  · rw [List.append_assoc]
    exact congrArg (fun received => received.2.1.calls) hheard
  · rw [hnone] at hdecides
    cases hdecides with
    | nothing hmode => exact hmode
  · rw [hreply] at hdecides
    cases hdecides with
    | @accepted datagram _ hkernel hdecoded =>
      have hsame : ∀ other : Envelope, (other.overlay datagram.bytes).decode datagram.length = .ok reply →
          (receive s other mode peek).value.1 = .ok (some reply) := by
        intro other hother
        rw [receive_of_ok hrepeated, accept_of_kernel hkernel, hother]
      obtain ⟨-, hmin, hmax, -, -⟩ := Envelope.decode_eq_ok hdecoded
      refine ⟨datagram, rfl, hkernel, fun other htake => hsame other ?_, fun hbacked =>
        ⟨hbacked.readFrom hdecoded, fun other => hsame other ?_⟩⟩
      · rw [Envelope.decode_congr (hmin.trans hmax) htake, hdecoded]
      · exact (Envelope.decode_overlay_eq_ok other hbacked hdecoded).1

end Exchange

end AuditCollector
