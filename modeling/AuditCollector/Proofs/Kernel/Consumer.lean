import AuditCollector.Proofs.Client.Send
import AuditCollector.Proofs.Kernel.Requests

namespace AuditCollector

open AuditCollector.Frame AuditCollector.Scripted

namespace AnsweringKernel

variable {kernel kernel' : AnsweringKernel} {request : Bytes}

-- The process that a request asks messages to go to, if it asks for that.
def named? (request : Bytes) : Option UInt32 :=
  if isRegistration request then some (request.uint32At (headerLength + 12)) else none

theorem named?_requestBytes (length : Nat) (messageType : UInt16) (sequence : UInt32) (status : Status) :
    named? (Envelope.requestBytes length messageType sequence status.toBytes) =
      if messageType == Envelope.setStatusType && status.mask &&& Status.Part.pid.bit != 0 then
        some status.pid
      else none := by
  have hpid : Bytes.uint32At (Envelope.requestBytes length messageType sequence status.toBytes)
      (headerLength + 12) = status.pid := Bytes.firstUInt32_ofUInt32_append status.pid _
  rw [named?, isRegistration_requestBytes, hpid]

-- The process that messages go to, or zero: the last one that was named in a request which
-- the kernel answered with zero.
def consumer (kernel : AnsweringKernel) : UInt32 :=
  kernel.requests.zipIdx.foldl (fun consumer (request, n) =>
    if (kernel.answers n).code = 0 then (named? request).getD consumer else consumer) 0

theorem consumer_answer (kernel : AnsweringKernel) (request : Bytes) :
    (kernel.answer request).consumer =
      if (kernel.answers kernel.requests.length).code = 0 then (named? request).getD kernel.consumer
      else kernel.consumer := by
  simp only [consumer, answer, List.zipIdx_append, List.foldl_append, List.zipIdx_singleton,
    List.foldl_cons, List.foldl_nil, Nat.zero_add]
  rfl

-- What the kernel was told, and how it deals with that.
def told (kernel : AnsweringKernel) : (Nat → Answer) × List Bytes × List SendFault :=
  (kernel.answers, kernel.requests, kernel.sends)

-- Receiving tells the kernel nothing.
theorem told_receive (kernel : AnsweringKernel) (capacity : Nat) (mode : ReceiveMode) (peek : Peek) :
    (Channel.receive kernel capacity mode peek).2.told = kernel.told := by
  have harrive : kernel.arrive.told = kernel.told := by
    unfold arrive told
    split
    · rfl
    · rfl
  rw [← harrive]
  change (kernel.receive capacity mode peek).2.told = _
  unfold receive take told
  split
  · rfl
  · split
    · split
      · rfl
      · rfl
    · split
      · rfl
      · rfl

-- How far the kernel has come with the requests, and where its messages go.
structure Reached (kernel : AnsweringKernel) (answers : Nat → Answer) (standing : Standing)
    (consumer : UInt32) : Prop where
  answers : kernel.answers = answers
  standing : kernel.standing = standing
  consumer : kernel.consumer = consumer

theorem Reached.receive {answers : Nat → Answer} {standing : Standing} {consumer : UInt32}
    (h : kernel.Reached answers standing consumer) (capacity : Nat) (mode : ReceiveMode) (peek : Peek) :
    (Channel.receive kernel capacity mode peek).2.Reached answers standing consumer := by
  have htold := told_receive kernel capacity mode peek
  simp only [told, Prod.mk.injEq] at htold
  obtain ⟨hanswers, hrequests, hsends⟩ := htold
  refine ⟨hanswers.trans h.answers, ?_, ?_⟩
  · rw [← h.standing, AnsweringKernel.standing, AnsweringKernel.standing, hrequests, hsends]
  · rw [← h.consumer, AnsweringKernel.consumer, AnsweringKernel.consumer, hrequests, hanswers]

end AnsweringKernel

namespace Client

open AnsweringKernel

variable {kernel : AnsweringKernel} {client : Client AnsweringKernel} {answers : Nat → Answer}
  {standing standing' : Standing} {consumer pid : UInt32} {messageType : UInt16} {payload : Bytes}

theorem awaitAck_of_reached (h : kernel.Reached answers standing consumer) (sequence : UInt32) :
    (awaitAck kernel sequence).value.2.Reached answers standing consumer :=
  awaitAck_preserves (P := (Reached · answers standing consumer))
    (fun _ capacity mode peek hs => hs.receive capacity mode peek) h sequence

theorem discardFollowUp_of_reached (h : kernel.Reached answers standing consumer) :
    (discardFollowUp kernel).value.Reached answers standing consumer :=
  discardFollowUp_preserves (P := (Reached · answers standing consumer))
    (fun _ capacity mode peek hs => hs.receive capacity mode peek) h

theorem sendRepeatedly_of_reached (h : kernel.Reached answers standing consumer) {request : Bytes}
    {own : Answer} (hsubmit : standing.submit answers (some request.length) = (some own, standing')) :
    ∃ kernel', Channel.sendRepeatedly kernel request = (.ok request.length, kernel') ∧
      kernel'.Reached answers standing'
        (if own.code = 0 then (named? request).getD consumer else consumer) := by
  obtain ⟨rfl, rfl, rfl⟩ := h
  obtain ⟨rfl, hstanding, hsent⟩ := sendRepeatedly_of_submit hsubmit
  exact ⟨_, hsent, rfl, hstanding, consumer_answer _ request⟩

-- A request makes the process that it names the consumer if its own answer says so, whatever
-- is received.
theorem send_of_reached (h : client.channel.Reached answers standing consumer) {pid? : Option UInt32}
    (hnamed : ∀ length number, named? (Envelope.requestBytes length messageType number payload) = pid?)
    {own? : Option Answer}
    (hsubmit : standing.submit answers (requestLength? payload.length) = (own?, standing')) :
    (client.send messageType payload).value.2.channel.Reached answers standing'
      (if own?.any (·.code == 0) then pid?.getD consumer else consumer) := by
  cases hlength : requestLength? payload.length with
  | none =>
    rw [hlength] at hsubmit
    cases hsubmit
    rw [(send_of_too_long hlength).1]
    exact h
  | some length =>
    rw [hlength] at hsubmit
    cases own? with
    | none =>
      rw [← h.standing, ← h.answers] at hsubmit
      obtain ⟨error, hvalue, hanswered, -, -⟩ := @send_of_refused client messageType _ _ _ hlength hsubmit
      rw [hvalue]
      refine ⟨h.answers, ?_, h.consumer⟩
      rw [AnsweringKernel.standing, ← hanswered]
    | some own =>
      let number := client.sequence.advance.value.1
      have hframe := Envelope.length_requestBytes hlength messageType number
      rw [← hframe] at hsubmit
      obtain ⟨kernel, hsent, hreached⟩ := sendRepeatedly_of_reached h hsubmit
      rw [hframe] at hsent
      rw [hnamed] at hreached
      have hleft := awaitAck_of_reached hreached number
      rcases hawait : (awaitAck kernel number).value with ⟨answered, kernel'⟩
      rw [hawait] at hleft
      rw [send_of_sent hlength hsent hawait]
      by_cases hcode : own.code = 0
      · simpa [hcode] using hleft
      · simpa [hcode] using hleft

end Client

end AuditCollector
