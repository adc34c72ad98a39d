import AuditCollector.Client
import AuditCollector.Proofs.Exchange.Send

namespace AuditCollector.Client

open AuditCollector.Frame

variable {σ : Type} {s s' : σ} {client : Client σ} {messageType : UInt16} {payload : Bytes}
  {length : Nat} {answered : Except ExchangeError Unit}

-- An answer with a number of its own is told, and makes no other difference.
theorem value_compare (sequence : UInt32) (s : σ) (reply : Reply) :
    (awaitAck.compare sequence s reply).value = (.ok (), s) := by
  unfold awaitAck.compare
  split
  · rfl
  · rfl

section Await

variable [Channel σ] {s'' : σ} {reply : Reply} {notice : Notice} {envelope envelope' : Envelope}
  {error : ExchangeError}

theorem awaitAck_of_peek_error
    (hpeek : (Exchange.receive s Envelope.zero .blocking .peekOnly).value = (.error error, s', envelope))
    (sequence : UInt32) : (awaitAck s sequence).value = (.error error, s') := by
  simp only [awaitAck, Traced.value_bind, hpeek, Traced.value_pure]

-- A wait that is shown something else than a notice is over, and leaves it where it is.
theorem awaitAck_of_no_notice
    (hpeek : (Exchange.receive s Envelope.zero .blocking .peekOnly).value = (.ok (some reply), s', envelope))
    (hother : reply.notice? = none) (sequence : UInt32) : (awaitAck s sequence).value = (.ok (), s') := by
  simp only [awaitAck, Traced.value_bind, hpeek, hother, Option.isNone_none, if_true, value_compare]

-- Behind a notice there is another receive, and the notice that this one gives counts.
theorem awaitAck_of_notice {seen : Reply}
    (hpeek : (Exchange.receive s Envelope.zero .blocking .peekOnly).value = (.ok (some seen), s', envelope))
    (hseen : seen.notice?.isSome)
    (htake : (Exchange.receive s' envelope .blocking .consume).value = (.ok (some reply), s'', envelope'))
    (hnotice : reply.notice? = some notice) (sequence : UInt32) :
    (awaitAck s sequence).value =
      (if notice.code = 0 then .ok () else .error (.kernel sequence (.os notice.errno)), s'') := by
  have hother : seen.notice?.isNone = false := by rw [← Option.not_isSome, hseen, Bool.not_true]
  simp only [awaitAck, Traced.value_bind, hpeek, htake, hnotice, hother, Bool.false_eq_true, if_false]
  have hack : notice.isAck = true ↔ notice.code = 0 := beq_iff_eq
  by_cases hcode : notice.code = 0
  · rw [if_pos (hack.mpr hcode), if_pos hcode, value_compare]
  · rw [if_neg (mt hack.mp hcode), if_neg hcode, Traced.value_pure]

theorem awaitAck_of_take_error
    (hpeek : (Exchange.receive s Envelope.zero .blocking .peekOnly).value = (.ok (some reply), s', envelope))
    (hnotice : reply.notice? = some notice)
    (htake : (Exchange.receive s' envelope .blocking .consume).value = (.error error, s'', envelope'))
    (sequence : UInt32) : (awaitAck s sequence).value = (.error error, s'') := by
  simp only [awaitAck, Traced.value_bind, hpeek, htake, hnotice, Option.isNone_some, Bool.false_eq_true,
    if_false, Traced.value_pure]

end Await

-- A request that the kernel got whole comes to what the wait for its answer comes to.
theorem send_of_sent [Channel σ] (hlength : requestLength? payload.length = some length)
    (hsent : Channel.sendRepeatedly client.channel
      (Envelope.requestBytes length messageType client.sequence.advance.value.1 payload) =
        (.ok length, s))
    (hawait : (awaitAck s client.sequence.advance.value.1).value = (answered, s')) :
    (client.send messageType payload).value =
      (answered.map fun _ => client.sequence.advance.value.1,
        ⟨s', client.sequence.advance.value.2⟩) := by
  simp only [send, Traced.value_bind, Exchange.send_of_ok hlength hsent, hawait, Traced.value_pure]

section SetPid

variable [Channel σ] {client' : Client σ} {pid number : UInt32} {error : ExchangeError}

theorem setPid_of_error
    (h : (client.send Envelope.setStatusType (registration pid).toBytes).value =
      (.error error, client')) :
    (client.setPid pid true).value = (.error error, client') := by
  simp only [setPid, Traced.value_bind, h]
  rfl

theorem setPid_of_ok
    (h : (client.send Envelope.setStatusType (registration pid).toBytes).value =
      (.ok number, client')) :
    (client.setPid pid true).value =
      (.ok (), { client' with channel := (discardFollowUp client'.channel).value }) := by
  simp only [setPid, Traced.value_bind, h]
  rfl

end SetPid

-- Whatever comes of the look for one more message, only the channel is left of it.
theorem value_discardFollowUp [Channel σ] (s : σ) :
    (discardFollowUp s).value =
      (Exchange.receive s Envelope.zero .nonBlocking .consume).value.2.1 := by
  simp only [discardFollowUp, Traced.value_bind]
  rcases (Exchange.receive s Envelope.zero .nonBlocking .consume).value
    with ⟨error | _ | reply, s', envelope⟩
  · rfl
  · rfl
  · rfl

section Preserves

variable [Channel σ] {P : σ → Prop}
  (hreceive : ∀ s capacity mode peek, P s → P (Channel.receive s capacity mode peek).2)

include hreceive

theorem receiveRepeatedly_preserves {s : σ} (h : P s) (capacity : Nat) (mode : ReceiveMode)
    (peek : Peek) : P (Channel.receiveRepeatedly s capacity mode peek).2 := by
  fun_induction Channel.receiveRepeatedly s capacity mode peek with
  | case1 s datagram s' hfirst => simpa [hfirst] using hreceive s capacity mode peek h
  | case2 s error s' hfirst hretries hless ih =>
    exact ih (by simpa [hfirst] using hreceive s capacity mode peek h)
  | case3 s error s' hfirst hretries => simpa [hfirst] using hreceive s capacity mode peek h

theorem exchange_receive_preserves {s : σ} (h : P s) (envelope : Envelope) (mode : ReceiveMode)
    (peek : Peek) : P (Exchange.receive s envelope mode peek).value.2.1 := by
  rw [Exchange.channel_receive]
  exact receiveRepeatedly_preserves hreceive h capacity mode peek

-- What receives keep, a wait for an answer keeps.
theorem awaitAck_preserves {s : σ} (h : P s) (sequence : UInt32) :
    P (awaitAck s sequence).value.2 := by
  have hpeek := exchange_receive_preserves hreceive h Envelope.zero .blocking .peekOnly
  simp only [awaitAck, Traced.value_bind]
  rcases hpeeked : (Exchange.receive s Envelope.zero .blocking .peekOnly).value
    with ⟨error | _ | reply, s', envelope⟩
  · simpa [hpeeked] using hpeek
  · simpa [hpeeked] using hpeek
  · rw [hpeeked] at hpeek
    simp only
    split
    · simpa [value_compare] using hpeek
    · have htake := exchange_receive_preserves hreceive hpeek envelope .blocking .consume
      simp only [Traced.value_bind]
      rcases htaken : (Exchange.receive s' envelope .blocking .consume).value
        with ⟨error | _ | reply, s'', envelope'⟩
      · simpa [htaken] using htake
      · simpa [htaken, value_compare] using htake
      · rw [htaken] at htake
        simp only
        split
        · simpa [value_compare] using htake
        · split
          · simpa [value_compare] using htake
          · exact htake

theorem discardFollowUp_preserves {s : σ} (h : P s) : P (discardFollowUp s).value := by
  rw [value_discardFollowUp]
  exact exchange_receive_preserves hreceive h Envelope.zero .nonBlocking .consume

end Preserves

section SendPreserves

variable [Channel σ] {P : σ → Prop} (hsend : ∀ s frame, P s → P (Channel.send s frame).2)

include hsend

theorem sendRepeatedly_preserves {s : σ} (h : P s) (frame : Bytes) :
    P (Channel.sendRepeatedly s frame).2 := by
  fun_induction Channel.sendRepeatedly s frame with
  | case1 s sent s' hfirst => simpa [hfirst] using hsend s frame h
  | case2 s s' hfirst hless ih => exact ih (by simpa [hfirst] using hsend s frame h)
  | case3 s error s' hfirst hother => simpa [hfirst] using hsend s frame h

theorem exchange_send_preserves {s : σ} (h : P s) (counter : SequenceCounter) (messageType : UInt16)
    (payload : Bytes) : P (Exchange.send s counter messageType payload).value.2.1 := by
  unfold Exchange.send
  split
  · exact h
  · rename_i length hlength
    simp only [Traced.value_bind]
    have hsent := sendRepeatedly_preserves hsend h
      (Envelope.requestBytes length messageType counter.advance.value.1 payload)
    rcases hs : Channel.sendRepeatedly s
      (Envelope.requestBytes length messageType counter.advance.value.1 payload)
      with ⟨error | sent, s'⟩
    · rw [hs] at hsent
      exact hsent
    · rw [hs] at hsent
      simp only
      split
      · exact hsent
      · exact hsent

-- What sends and waits for answers keep, a request keeps.
theorem send_preserves (hawait : ∀ s sequence, P s → P (awaitAck s sequence).value.2)
    (h : P client.channel) (messageType : UInt16) (payload : Bytes) :
    P (client.send messageType payload).value.2.channel := by
  have hsent := exchange_send_preserves hsend h client.sequence messageType payload
  simp only [send, Traced.value_bind]
  rcases hs : (Exchange.send client.channel client.sequence messageType payload).value
    with ⟨error | number, s, counter⟩
  · rw [hs] at hsent
    exact hsent
  · rw [hs] at hsent
    exact hawait s number hsent

end SendPreserves

end AuditCollector.Client
