import AuditCollector.Exchange.Basic

namespace AuditCollector

-- Nothing tells of an answer to another request.
def Traced.InStep {α : Type} (x : Traced α) : Prop :=
  ∀ expected got, Event.answerOutOfStep expected got ∉ x.events

namespace Traced

variable {α β : Type} {x : Traced α} {f : α → Traced β}

theorem InStep.bind (hx : x.InStep) (hf : (f x.value).InStep) : (x >>= f).InStep := by
  intro expected got h
  rw [events_bind, List.mem_append] at h
  rcases h with h | h
  · exact hx expected got h
  · exact hf expected got h

theorem inStep_pure (a : α) : (pure a : Traced α).InStep := by
  intro expected got h
  cases h

theorem inStep_emit {event : Event} (h : ∀ expected got, event ≠ .answerOutOfStep expected got) :
    (emit event).InStep := by
  intro expected got hmem
  exact h expected got (List.mem_singleton.mp hmem).symm

end Traced

theorem SequenceCounter.advance_inStep (counter : SequenceCounter) : counter.advance.InStep := by
  unfold SequenceCounter.advance
  dsimp only
  split
  · exact .bind (Traced.inStep_emit (by simp)) (Traced.inStep_pure _)
  · exact Traced.inStep_pure _

namespace Exchange

open AuditCollector.Frame

variable {σ : Type} [Channel σ] {s s' : σ} {counter : SequenceCounter} {messageType : UInt16}
  {payload : Bytes} {length : Nat}

theorem send_inStep (s : σ) (counter : SequenceCounter) (messageType : UInt16) (payload : Bytes) :
    (send s counter messageType payload).InStep := by
  unfold send
  split
  · exact .bind (Traced.inStep_emit (by simp)) (Traced.inStep_pure _)
  · refine .bind counter.advance_inStep ?_
    simp only
    split
    · split
      · exact .bind (Traced.inStep_emit (by simp)) (Traced.inStep_pure _)
      · exact Traced.inStep_pure _
    · exact .bind (Traced.inStep_emit (by simp)) (Traced.inStep_pure _)

-- A request that is too long does not use up a number.
theorem send_of_too_long (hlength : requestLength? payload.length = none) :
    (send s counter messageType payload).value =
      (.error (.payloadTooLarge payload.length maxPayloadLength), s, counter) := by
  simp [send, hlength]

theorem send_of_ok (hlength : requestLength? payload.length = some length)
    (h : Channel.sendRepeatedly s
      (Envelope.requestBytes length messageType counter.advance.value.1 payload) =
        (.ok length, s')) :
    (send s counter messageType payload).value =
      (.ok counter.advance.value.1, s', counter.advance.value.2) := by
  simp only [send, hlength, Traced.value_bind, h, if_true]
  rfl

theorem send_of_short {sent : Nat} (hlength : requestLength? payload.length = some length)
    (h : Channel.sendRepeatedly s
      (Envelope.requestBytes length messageType counter.advance.value.1 payload) =
        (.ok sent, s'))
    (hshort : sent ≠ length) :
    (send s counter messageType payload).value =
      (.error (.protocolFault ("short send: " ++ toString sent ++ " of " ++ toString length
        ++ " bytes")), s', counter.advance.value.2) := by
  simp only [send, hlength, Traced.value_bind, h, if_neg hshort]
  rfl

theorem send_of_error {error : IoError} (hlength : requestLength? payload.length = some length)
    (h : Channel.sendRepeatedly s
      (Envelope.requestBytes length messageType counter.advance.value.1 payload) =
        (.error error, s')) :
    (send s counter messageType payload).value =
      (.error (.io error), s', counter.advance.value.2) := by
  simp only [send, hlength, Traced.value_bind, h]
  rfl

-- What a send comes to, by the outcome of its last call.
inductive Concludes (sequence : UInt32) (length : Nat) :
    Except IoError Nat → Except ExchangeError UInt32 → Prop where
  | whole : Concludes sequence length (.ok length) (.ok sequence)
  | short {sent : Nat} (hshort : sent ≠ length) :
    Concludes sequence length (.ok sent) (.error (.protocolFault ("short send: " ++ toString sent ++
      " of " ++ toString length ++ " bytes")))
  | failed {error : IoError} : Concludes sequence length (.error error) (.error (.io error))

theorem send_concludes {outcome : Except IoError Nat} (hlength : requestLength? payload.length = some length)
    (h : Channel.sendRepeatedly s
      (Envelope.requestBytes length messageType counter.advance.value.1 payload) = (outcome, s')) :
    ∃ result, (send s counter messageType payload).value = (result, s', counter.advance.value.2) ∧
      Concludes counter.advance.value.1 length outcome result := by
  cases outcome with
  | error error => exact ⟨_, send_of_error hlength h, .failed⟩
  | ok sent =>
    by_cases hwhole : sent = length
    · subst hwhole
      exact ⟨_, send_of_ok hlength h, .whole⟩
    · exact ⟨_, send_of_short hlength h hwhole, .short hwhole⟩

theorem receive_inStep (s : σ) (envelope : Envelope) (mode : ReceiveMode) (peek : Peek) :
    (receive s envelope mode peek).InStep := by
  unfold receive
  split
  · refine .bind ?_ (Traced.inStep_pure _)
    unfold accept
    dsimp only
    split
    · exact .bind (Traced.inStep_emit (by simp)) (Traced.inStep_pure _)
    · split
      · exact .bind (Traced.inStep_emit (by simp)) (Traced.inStep_pure _)
      · split
        · exact Traced.inStep_pure _
        · exact .bind (Traced.inStep_emit (by simp)) (Traced.inStep_pure _)
  · split
    · exact Traced.inStep_pure _
    · exact .bind (Traced.inStep_emit (by simp)) (Traced.inStep_pure _)

end Exchange

end AuditCollector
