import AuditCollector.Client
import AuditCollector.Proofs.Channel.Memory
import AuditCollector.Proofs.EventLoop.Records

namespace AuditCollector

open AuditCollector.Frame

-- Whether the system names the kernel as the sender.
def Sender.IsKernel (sender : Sender) : Prop := sender = ⟨kernelAddressLength, 0⟩

instance (sender : Sender) : Decidable sender.IsKernel := inferInstanceAs (Decidable (_ = _))

-- Two messages of the same sender that are also the same otherwise, and real, if the kernel is
-- their sender.
structure Datagram.Alike (datagram datagram' : Datagram) : Prop where
  sender : datagram.sender = datagram'.sender
  kernel : datagram.sender.IsKernel → datagram = datagram' ∧ datagram.IsBacked

-- What two receives give, up to what strangers write.
inductive ReceivedAlike : Except IoError Datagram → Except IoError Datagram → Prop where
  | error (error : IoError) : ReceivedAlike (.error error) (.error error)
  | message {datagram datagram' : Datagram} (halike : datagram.Alike datagram') :
    ReceivedAlike (.ok datagram) (.ok datagram')

-- Two channels that cannot be told apart but by what strangers write into their messages.
structure Channel.Twins (σ τ : Type) [Channel σ] [Channel τ] where
  related : σ → τ → Prop
  send {s : σ} {t : τ} (h : related s t) (frame : Bytes) :
    (Channel.send s frame).1 = (Channel.send t frame).1 ∧
      related (Channel.send s frame).2 (Channel.send t frame).2
  receive {s : σ} {t : τ} (h : related s t) (mode : ReceiveMode) (peek : Peek) :
    ReceivedAlike (Channel.receive s capacity mode peek).1 (Channel.receive t capacity mode peek).1 ∧
      related (Channel.receive s capacity mode peek).2 (Channel.receive t capacity mode peek).2
  wait {s : σ} {t : τ} (h : related s t) :
    (Channel.waitReadable s).1 = (Channel.waitReadable t).1 ∧
      related (Channel.waitReadable s).2 (Channel.waitReadable t).2
  close {s : σ} {t : τ} (h : related s t) :
    related (Channel.close s).value (Channel.close t).value
  stop {s : σ} {t : τ} (h : related s t) : Channel.stopRequested s = Channel.stopRequested t

variable {σ τ : Type} [Channel σ] [Channel τ]

-- Overheard twins are also sent the same.
def Channel.Twins.overheard (twins : Channel.Twins σ τ) :
    Channel.Twins (Overheard σ) (Overheard τ) where
  related heard heard' := twins.related heard.channel heard'.channel ∧
    (Overheard.memory σ).sent heard = (Overheard.memory τ).sent heard'
  send {heard heard'} h frame := by
    obtain ⟨hresult, hrelated⟩ := twins.send h.1 frame
    refine ⟨hresult, hrelated, ?_⟩
    rw [(Overheard.memory σ).send, (Overheard.memory τ).send, h.2]
  receive {heard heard'} h mode peek := by
    obtain ⟨hresult, hrelated⟩ := twins.receive h.1 mode peek
    refine ⟨hresult, hrelated, ?_⟩
    rw [(Overheard.memory σ).receive, (Overheard.memory τ).receive, h.2]
  wait {heard heard'} h := by
    obtain ⟨hresult, hrelated⟩ := twins.wait h.1
    refine ⟨hresult, hrelated, ?_⟩
    rw [(Overheard.memory σ).wait, (Overheard.memory τ).wait, h.2]
  close {heard heard'} h := by
    refine ⟨twins.close h.1, ?_⟩
    change List.filterMap _ (heard.calls ++ [.close]) = List.filterMap _ (heard'.calls ++ [.close])
    rw [List.filterMap_append, List.filterMap_append]
    exact congrArg (· ++ _) h.2
  stop h := twins.stop h.1

namespace Channel.Twins

variable (twins : Channel.Twins σ τ) {s : σ} {t : τ}

theorem sendRepeatedly (h : twins.related s t) (frame : Bytes) :
    (Channel.sendRepeatedly s frame).1 = (Channel.sendRepeatedly t frame).1 ∧
      twins.related (Channel.sendRepeatedly s frame).2 (Channel.sendRepeatedly t frame).2 := by
  fun_induction Channel.sendRepeatedly s frame generalizing t with
  | case1 s sent s' hsend =>
    obtain ⟨hresult, hrelated⟩ := twins.send h frame
    rw [hsend] at hresult hrelated
    rw [Channel.sendRepeatedly_of_ok (Prod.ext hresult.symm rfl)]
    exact ⟨rfl, hrelated⟩
  | case2 s s' hsend hless ih =>
    obtain ⟨hresult, hrelated⟩ := twins.send h frame
    rw [hsend] at hresult hrelated
    rw [Channel.sendRepeatedly_of_error (Prod.ext hresult.symm rfl), if_pos rfl]
    exact ih hrelated
  | case3 s error s' hsend hother =>
    obtain ⟨hresult, hrelated⟩ := twins.send h frame
    rw [hsend] at hresult hrelated
    rw [Channel.sendRepeatedly_of_error (Prod.ext hresult.symm rfl), if_neg hother]
    exact ⟨rfl, hrelated⟩

theorem receiveRepeatedly (h : twins.related s t) (mode : ReceiveMode) (peek : Peek) :
    ReceivedAlike (Channel.receiveRepeatedly s capacity mode peek).1
        (Channel.receiveRepeatedly t capacity mode peek).1 ∧
      twins.related (Channel.receiveRepeatedly s capacity mode peek).2
        (Channel.receiveRepeatedly t capacity mode peek).2 := by
  fun_induction Channel.receiveRepeatedly s capacity mode peek generalizing t with
  | case1 s datagram s' hreceive =>
    obtain ⟨hresult, hrelated⟩ := twins.receive h mode peek
    rcases hreceive' : Channel.receive t capacity mode peek with ⟨result, t'⟩
    rw [hreceive, hreceive'] at hresult hrelated
    cases hresult with
    | message halike =>
      rw [Channel.receiveRepeatedly_of_ok hreceive']
      exact ⟨.message halike, hrelated⟩
  | case2 s error s' hreceive hretries hless ih =>
    obtain ⟨hresult, hrelated⟩ := twins.receive h mode peek
    rcases hreceive' : Channel.receive t capacity mode peek with ⟨result, t'⟩
    rw [hreceive, hreceive'] at hresult hrelated
    cases hresult
    rw [Channel.receiveRepeatedly_of_error hreceive', if_pos hretries]
    exact ih hrelated
  | case3 s error s' hreceive hretries =>
    obtain ⟨hresult, hrelated⟩ := twins.receive h mode peek
    rcases hreceive' : Channel.receive t capacity mode peek with ⟨result, t'⟩
    rw [hreceive, hreceive'] at hresult hrelated
    cases hresult
    rw [Channel.receiveRepeatedly_of_error hreceive', if_neg hretries]
    exact ⟨.error error, hrelated⟩

end Channel.Twins

namespace Exchange

-- What a stranger writes is not even looked at.
theorem accept_of_stranger {datagram datagram' : Datagram}
    (hsender : datagram.sender = datagram'.sender) (hstranger : ¬datagram.sender.IsKernel)
    (envelope envelope' : Envelope) :
    ∃ error, (accept envelope datagram).value = .error error ∧
      (accept envelope' datagram').value = .error error := by
  unfold accept
  rw [← hsender]
  by_cases hlength : datagram.sender.addressLength = Sender.kernelAddressLength
  · have hpid : datagram.sender.pid ≠ 0 := by
      intro hpid
      apply hstranger
      rw [Sender.IsKernel, ← hlength, ← hpid]
    simp only [hlength, ne_eq, not_true_eq_false, if_false, hpid, not_false_eq_true, if_true]
    exact ⟨_, rfl, rfl⟩
  · simp only [hlength, ne_eq, not_false_eq_true, if_true]
    exact ⟨_, rfl, rfl⟩

theorem receive_of_ok {s s' : σ} {datagram : Datagram} {mode : ReceiveMode} {peek : Peek}
    (h : Channel.receiveRepeatedly s capacity mode peek = (.ok datagram, s')) (envelope : Envelope) :
    (receive s envelope mode peek).value =
      ((accept (envelope.overlay datagram.bytes) datagram).value, s',
        envelope.overlay datagram.bytes) := by
  simp only [receive, h, Traced.value_bind, Traced.value_pure]

theorem receive_of_error {s s' : σ} {error : IoError} {mode : ReceiveMode} {peek : Peek}
    (h : Channel.receiveRepeatedly s capacity mode peek = (.error error, s')) (envelope : Envelope) :
    (receive s envelope mode peek).value =
      (if error = .wouldBlock ∧ mode = .nonBlocking then .ok none else .error (.io error), s',
        envelope) := by
  simp only [receive, h]
  split
  · rfl
  · rfl

-- The same envelope gets the same from both, and still is the same after a message of the kernel.
theorem receive_same (twins : Channel.Twins σ τ) {s : σ} {t : τ} (h : twins.related s t)
    (envelope : Envelope) (mode : ReceiveMode) (peek : Peek) :
    let received := (receive s envelope mode peek).value
    let received' := (receive t envelope mode peek).value
    received.1 = received'.1 ∧ twins.related received.2.1 received'.2.1 ∧
      ∀ reply, received.1 = .ok (some reply) → received.2.2 = received'.2.2 := by
  obtain ⟨hresult, hrelated⟩ := twins.receiveRepeatedly h mode peek
  rcases hs : Channel.receiveRepeatedly s capacity mode peek with ⟨result, s'⟩
  rcases ht : Channel.receiveRepeatedly t capacity mode peek with ⟨result', t'⟩
  rw [hs, ht] at hresult hrelated
  cases hresult with
  | error error =>
    rw [receive_of_error hs, receive_of_error ht]
    exact ⟨rfl, hrelated, fun _ _ => rfl⟩
  | @message datagram datagram' halike =>
    rw [receive_of_ok hs, receive_of_ok ht]
    by_cases hkernel : datagram.sender.IsKernel
    · obtain ⟨rfl, -⟩ := halike.kernel hkernel
      exact ⟨rfl, hrelated, fun _ _ => rfl⟩
    · obtain ⟨error, haccept, haccept'⟩ := accept_of_stranger halike.sender hkernel
        (envelope.overlay datagram.bytes) (envelope.overlay datagram'.bytes)
      rw [haccept, haccept']
      exact ⟨rfl, hrelated, nofun⟩

-- Two results of a receive that bring the same for the log.
inductive SameRecord :
    Except ExchangeError (Option Reply) → Except ExchangeError (Option Reply) → Prop where
  | failure (error error' : ExchangeError) : SameRecord (.error error) (.error error')
  | nothing : SameRecord (.ok none) (.ok none)
  | record {reply reply' : Reply} (hpayload : reply.payload = reply'.payload) :
    SameRecord (.ok (some reply)) (.ok (some reply'))

-- Whatever was in the envelopes, what is received for the log is the same.
theorem receive_any (twins : Channel.Twins σ τ) {s : σ} {t : τ} (h : twins.related s t)
    (envelope envelope' : Envelope) (mode : ReceiveMode) (peek : Peek) :
    let received := (receive s envelope mode peek).value
    let received' := (receive t envelope' mode peek).value
    SameRecord received.1 received'.1 ∧ twins.related received.2.1 received'.2.1 := by
  obtain ⟨hresult, hrelated⟩ := twins.receiveRepeatedly h mode peek
  rcases hs : Channel.receiveRepeatedly s capacity mode peek with ⟨result, s'⟩
  rcases ht : Channel.receiveRepeatedly t capacity mode peek with ⟨result', t'⟩
  rw [hs, ht] at hresult hrelated
  cases hresult with
  | error error =>
    rw [receive_of_error hs, receive_of_error ht]
    refine ⟨?_, hrelated⟩
    split
    · exact .nothing
    · exact .failure _ _
  | @message datagram datagram' halike =>
    rw [receive_of_ok hs, receive_of_ok ht]
    by_cases hkernel : datagram.sender.IsKernel
    · obtain ⟨rfl, hbacked⟩ := halike.kernel hkernel
      -- that the message is real is what keeps the rest of the envelope out
      rcases accept_cases envelope hbacked with
        ⟨reply, haccept, hrecord⟩ | ⟨error, haccept, hrecord⟩
      · rcases accept_cases envelope' hbacked with
          ⟨reply', haccept', hrecord'⟩ | ⟨error', haccept', hrecord'⟩
        · rw [haccept, haccept']
          exact ⟨.record (Option.some.inj (hrecord.symm.trans hrecord')), hrelated⟩
        · cases hrecord.symm.trans hrecord'
      · rcases accept_cases envelope' hbacked with
          ⟨reply', haccept', hrecord'⟩ | ⟨error', haccept', hrecord'⟩
        · cases hrecord.symm.trans hrecord'
        · rw [haccept, haccept']
          exact ⟨.failure _ _, hrelated⟩
    · obtain ⟨error, haccept, haccept'⟩ := accept_of_stranger halike.sender hkernel
        (envelope.overlay datagram.bytes) (envelope'.overlay datagram'.bytes)
      rw [haccept, haccept']
      exact ⟨.failure _ _, hrelated⟩

theorem send_same (twins : Channel.Twins σ τ) {s : σ} {t : τ} (h : twins.related s t)
    (counter : SequenceCounter) (messageType : UInt16) (payload : Bytes) :
    let sent := (send s counter messageType payload).value
    let sent' := (send t counter messageType payload).value
    sent.1 = sent'.1 ∧ twins.related sent.2.1 sent'.2.1 ∧ sent.2.2 = sent'.2.2 := by
  unfold send
  split
  · exact ⟨rfl, h, rfl⟩
  · simp only [Traced.value_bind]
    rename_i length hlength
    obtain ⟨hresult, hrelated⟩ := twins.sendRepeatedly h
      (Envelope.requestBytes length messageType counter.advance.value.1 payload)
    rcases hs : Channel.sendRepeatedly s (Envelope.requestBytes length messageType
      counter.advance.value.1 payload) with ⟨result, s'⟩
    rcases ht : Channel.sendRepeatedly t (Envelope.requestBytes length messageType
      counter.advance.value.1 payload) with ⟨result', t'⟩
    rw [hs, ht] at hresult hrelated
    cases hresult
    rcases result with error | sent
    · exact ⟨rfl, hrelated, rfl⟩
    · simp only
      split
      · exact ⟨rfl, hrelated, rfl⟩
      · exact ⟨rfl, hrelated, rfl⟩

end Exchange

namespace Scripted

-- Two items of a script that differ at most in what a stranger writes. Any other message has at
-- least the length that is reported for it.
inductive Inbound.Alike : Inbound → Inbound → Prop where
  | failure (error : IoError) : Alike (.failure error) (.failure error)
  | same {frame : Bytes} {sender : Sender} {reported : Option Nat} {volatile : Bool}
    (hbacked : reported.getD (frame.take capacity).length ≤ (frame.take capacity).length) :
    Alike (.message frame sender reported volatile) (.message frame sender reported volatile)
  | stranger {frame frame' : Bytes} {sender : Sender} {reported reported' : Option Nat}
    {volatile : Bool} (hsender : ¬sender.IsKernel) :
    Alike (.message frame sender reported volatile) (.message frame' sender reported' volatile)

-- Sockets that act out scripts which are otherwise the same.
def Socket.twins : Channel.Twins Socket Socket where
  related socket socket' := List.Forall₂ Inbound.Alike socket.inbound socket'.inbound ∧
    socket.sends = socket'.sends ∧ socket.waits = socket'.waits ∧ socket.stop = socket'.stop
  send {socket socket'} h frame := by
    obtain ⟨inbound, sends, waits, sent, receives, closed, stop⟩ := socket
    obtain ⟨inbound', sends', waits', sent', receives', closed', stop'⟩ := socket'
    obtain ⟨hinbound, rfl, rfl, rfl⟩ := h
    rcases sends with _ | ⟨fault | fault, sends⟩
    · exact ⟨rfl, hinbound, rfl, rfl, rfl⟩
    · exact ⟨rfl, hinbound, rfl, rfl, rfl⟩
    · exact ⟨rfl, hinbound, rfl, rfl, rfl⟩
  receive {socket socket'} h mode peek := by
    obtain ⟨inbound, sends, waits, sent, receives, closed, stop⟩ := socket
    obtain ⟨inbound', sends', waits', sent', receives', closed', stop'⟩ := socket'
    obtain ⟨hinbound, rfl, rfl, rfl⟩ := h
    cases hinbound with
    | nil => exact ⟨.error _, .nil, rfl, rfl, rfl⟩
    | cons hfirst hrest =>
      cases hfirst with
      | failure error => exact ⟨.error error, hrest, rfl, rfl, rfl⟩
      | same hbacked =>
        refine ⟨.message ⟨rfl, fun _ => ⟨rfl, hbacked⟩⟩, ?_⟩
        simp only [Channel.receive, Socket.receive]
        split
        · exact ⟨hrest, rfl, rfl, rfl⟩
        · exact ⟨.cons (.same hbacked) hrest, rfl, rfl, rfl⟩
      | stranger hsender =>
        refine ⟨.message ⟨rfl, fun hkernel => absurd hkernel hsender⟩, ?_⟩
        simp only [Channel.receive, Socket.receive]
        split
        · exact ⟨hrest, rfl, rfl, rfl⟩
        · exact ⟨.cons (.stranger hsender) hrest, rfl, rfl, rfl⟩
  wait {socket socket'} h := by
    obtain ⟨inbound, sends, waits, sent, receives, closed, stop⟩ := socket
    obtain ⟨inbound', sends', waits', sent', receives', closed', stop'⟩ := socket'
    obtain ⟨hinbound, rfl, rfl, rfl⟩ := h
    rcases waits with _ | ⟨step, waits⟩
    · cases hinbound with
      | nil => exact ⟨rfl, .nil, rfl, rfl, rfl⟩
      | cons hfirst hrest => exact ⟨rfl, .cons hfirst hrest, rfl, rfl, rfl⟩
    · exact ⟨rfl, hinbound, rfl, rfl, rfl⟩
  close h := h
  stop h := h.2.2.2

end Scripted

end AuditCollector
