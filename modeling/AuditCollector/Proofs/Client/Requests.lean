import AuditCollector.Proofs.Channel.Memory
import AuditCollector.Proofs.Client.Send
import AuditCollector.Proofs.Kernel.Answering
import AuditCollector.Proofs.SequenceCounter

namespace AuditCollector

open AuditCollector.Frame

-- What the kernel is asked for.
structure Request where
  messageType : UInt16
  payload : Bytes
deriving DecidableEq, Repr

namespace Request

-- A request that is too long is never sent.
def Fits (request : Request) : Prop := request.payload.length ≤ maxPayloadLength

instance (request : Request) : Decidable request.Fits := inferInstanceAs (Decidable (_ ≤ _))

-- The bytes that ask for it under a number.
def frame (request : Request) (number : Nat) : Bytes :=
  Envelope.requestBytes (align (headerLength + request.payload.length)) request.messageType
    (UInt32.ofNat number) request.payload

-- The frames of requests that come one after the other, after the one with the number.
def frames (number : Nat) (requests : List Request) : List Bytes :=
  requests.mapIdx fun i request => request.frame ((number + 1 + i) % SequenceCounter.period)

@[simp] theorem frames_nil (number : Nat) : frames number [] = [] := rfl

theorem frames_cons (number : Nat) (request : Request) (requests : List Request) :
    frames number (request :: requests) =
      request.frame ((number + 1) % SequenceCounter.period) :: frames (number + 1) requests := by
  unfold frames
  rw [List.mapIdx_cons]
  simp only [Nat.add_zero, Nat.add_right_comm _ 1, Nat.add_assoc _ _ 1]

theorem frames_mod (number : Nat) (requests : List Request) :
    frames (number % SequenceCounter.period) requests = frames number requests := by
  unfold frames
  simp only [Nat.add_assoc, Nat.mod_add_mod]

theorem frames_append (number : Nat) (requests requests' : List Request) :
    frames number (requests ++ requests') =
      frames number requests ++ frames (number + requests.length) requests' := by
  unfold frames
  rw [List.mapIdx_append]
  simp only [Nat.add_assoc, Nat.add_comm, Nat.add_left_comm]

-- The number is part of the frame.
theorem number_of_frame_eq {request request' : Request} {m n : Nat}
    (h : request.frame m = request'.frame n) (hm : m < SequenceCounter.period)
    (hn : n < SequenceCounter.period) : m = n := by
  have hword := congrArg (Bytes.uint32At · 8) h
  simp only [frame, AnsweringKernel.sequence_requestBytes] at hword
  have hnat := congrArg UInt32.toNat hword
  unfold SequenceCounter.period at hm hn
  rw [UInt32.toNat_ofNat', UInt32.toNat_ofNat', Nat.mod_eq_of_lt (by omega),
    Nat.mod_eq_of_lt (by omega)] at hnat
  exact hnat

-- So two frames in a row are never the same.
theorem isChain_frames (number : Nat) (requests : List Request) :
    (frames number requests).IsChain (· ≠ ·) := by
  induction requests generalizing number with
  | nil => exact .nil
  | cons request requests ih =>
    cases requests with
    | nil => exact .singleton _
    | cons next requests =>
      have hrest := ih (number + 1)
      rw [frames_cons] at hrest
      rw [frames_cons, frames_cons]
      refine .cons_cons ?_ hrest
      intro hsame
      have hnumber := number_of_frame_eq hsame (Nat.mod_lt _ (by decide)) (Nat.mod_lt _ (by decide))
      unfold SequenceCounter.period at hnumber
      omega

end Request

open Request SequenceCounter

variable {σ : Type} [Channel σ] (memory : Channel.Memory σ)

-- Whether it gets through or not, a request that fits is handed over under the next number.
theorem Exchange.send_handed (s : σ) {counter : SequenceCounter} (hvalid : counter.Valid)
    {request : Request} (hfits : request.Fits) :
    let sent := (Exchange.send s counter request.messageType request.payload).value
    (∃ again, memory.sent sent.2.1 = memory.sent s ++
        List.replicate (again + 1) (request.frame ((counter.number + 1) % period))) ∧
      sent.2.2 = counter.advance.value.2 := by
  have hlength : requestLength? request.payload.length =
      some (align (headerLength + request.payload.length)) :=
    requestLength?_eq_some_iff.mpr ⟨hfits, rfl⟩
  obtain ⟨again, hsent⟩ :=
    memory.sendRepeatedly s (request.frame ((counter.number + 1) % period))
  rcases hrepeated : Channel.sendRepeatedly s (request.frame ((counter.number + 1) % period))
    with ⟨outcome, s'⟩
  rw [hrepeated] at hsent
  rw [Request.frame, ← issued_advance hvalid] at hrepeated
  obtain ⟨result, hvalue, -⟩ := Exchange.send_concludes hlength hrepeated
  rw [hvalue]
  exact ⟨⟨again, hsent⟩, rfl⟩

namespace Client

-- The second client has asked for so much since it was the first one: under consecutive
-- numbers, and again only after interruptions.
structure Asks (client : Client σ) (requests : List Request) (client' : Client σ) : Prop where
  handed : ∃ often, Repeats (frames client.sequence.number requests) often ∧
    memory.sent client'.channel = memory.sent client.channel ++ often
  number : client'.sequence.number = (client.sequence.number + requests.length) % period
  valid : client'.sequence.Valid

variable {memory} {client client' client'' : Client σ} {requests requests' : List Request}

theorem Asks.of_sent_eq (hvalid : client.sequence.Valid)
    (hsequence : client'.sequence = client.sequence)
    (hsent : memory.sent client'.channel = memory.sent client.channel) :
    client.Asks memory [] client' := by
  have hlt := number_lt client.sequence
  refine ⟨⟨[], .nil, by rw [hsent, List.append_nil]⟩, ?_, hsequence ▸ hvalid⟩
  rw [hsequence, List.length_nil, Nat.add_zero, Nat.mod_eq_of_lt hlt]

theorem Asks.trans (h : client.Asks memory requests client')
    (h' : client'.Asks memory requests' client'') :
    client.Asks memory (requests ++ requests') client'' := by
  obtain ⟨often, hoften, hsent⟩ := h.handed
  obtain ⟨often', hoften', hsent'⟩ := h'.handed
  refine ⟨⟨often ++ often', ?_, ?_⟩, ?_, h'.valid⟩
  · rw [h.number, frames_mod] at hoften'
    rw [frames_append]
    exact hoften.append hoften'
  · rw [hsent', hsent, List.append_assoc]
  · rw [h'.number, h.number, List.length_append, Nat.mod_add_mod, Nat.add_assoc]

variable (memory)

-- Receives hand nothing over, and so does the wait for an answer.
theorem sent_awaitAck (s : σ) (sequence : UInt32) :
    memory.sent (awaitAck s sequence).value.2 = memory.sent s :=
  awaitAck_preserves (P := fun s' => memory.sent s' = memory.sent s)
    (fun s' capacity mode peek h => (memory.receive s' capacity mode peek).trans h) rfl sequence

theorem sent_discardFollowUp (s : σ) : memory.sent (discardFollowUp s).value = memory.sent s :=
  discardFollowUp_preserves (P := fun s' => memory.sent s' = memory.sent s)
    (fun s' capacity mode peek h => (memory.receive s' capacity mode peek).trans h) rfl

theorem send_asks (hvalid : client.sequence.Valid) (request : Request) :
    client.Asks memory (if request.Fits then [request] else [])
      (client.send request.messageType request.payload).value.2 := by
  by_cases hfits : request.Fits
  · obtain ⟨⟨again, hsent⟩, hsequence⟩ :=
      Exchange.send_handed memory client.channel hvalid hfits
    rw [if_pos hfits]
    have hasked : ∀ client' : Client σ, client'.sequence = client.sequence.advance.value.2 →
        memory.sent client'.channel = memory.sent client.channel ++ List.replicate (again + 1)
          (request.frame ((client.sequence.number + 1) % period)) →
        client.Asks memory [request] client' := by
      intro client' hsequence' hsent'
      refine ⟨⟨_, ?_, hsent'⟩, ?_, ?_⟩
      · rw [frames_cons]
        exact .single _ again
      · rw [hsequence', number_advance hvalid]
        rfl
      · rw [hsequence']
        exact advance_valid hvalid
    simp only [send, Traced.value_bind]
    rcases hexchanged : (Exchange.send client.channel client.sequence request.messageType
      request.payload).value with ⟨error | number, s, counter⟩
    · rw [hexchanged] at hsent hsequence
      exact hasked _ hsequence hsent
    · rw [hexchanged] at hsent hsequence
      exact hasked _ hsequence ((sent_awaitAck memory s number).trans hsent)
  · have hlength : requestLength? request.payload.length = none :=
      requestLength?_eq_none_iff.mpr (Nat.lt_of_not_le hfits)
    rw [if_neg hfits]
    simp only [send, Traced.value_bind, Exchange.send_of_too_long hlength]
    exact .of_sent_eq hvalid rfl rfl

-- The request that makes a process the consumer, or nobody.
def registrationRequest (pid : UInt32) : Request :=
  ⟨Envelope.setStatusType, ({ mask := Status.Part.pid.bit, pid } : Status).toBytes⟩

-- It is the one that the client makes.
theorem registrationRequest_eq (pid : UInt32) :
    registrationRequest pid = ⟨Envelope.setStatusType, (registration pid).toBytes⟩ := rfl

theorem registrationRequest_fits (pid : UInt32) : (registrationRequest pid).Fits := by
  unfold Request.Fits registrationRequest
  rw [Status.length_toBytes]
  decide

theorem setPid_asks (hvalid : client.sequence.Valid) (pid : UInt32) (discard : Bool) :
    client.Asks memory [registrationRequest pid] (client.setPid pid discard).value.2 := by
  have hasked := send_asks memory hvalid (registrationRequest pid)
  rw [if_pos (registrationRequest_fits pid)] at hasked
  simp only [setPid, Traced.value_bind]
  rcases hsent : (client.send Envelope.setStatusType (registration pid).toBytes).value
    with ⟨error | number, client'⟩
  · rw [registrationRequest_eq, hsent] at hasked
    exact hasked
  · rw [registrationRequest_eq, hsent] at hasked
    cases discard
    · exact hasked
    · obtain ⟨often, hoften, hsent⟩ := hasked.handed
      exact ⟨⟨often, hoften, (sent_discardFollowUp memory client'.channel).trans hsent⟩, hasked.number,
        hasked.valid⟩

end Client

end AuditCollector
