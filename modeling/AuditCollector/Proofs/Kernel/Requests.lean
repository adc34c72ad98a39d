import AuditCollector.Client
import AuditCollector.Proofs.Exchange.Send
import AuditCollector.Proofs.Kernel.Answering

namespace AuditCollector

open AuditCollector.Frame AuditCollector.Scripted

namespace AnsweringKernel

variable {kernel : AnsweringKernel} {sends : List SendFault} {frame : Bytes} {message : Message}
  {queue : List Message} {mode : ReceiveMode} {peek : Peek}

-- Whether a request of some length is accepted whole, and the plan after it. An interrupted
-- send is made again.
def accepts : List SendFault → (length : Nat) → Bool × List SendFault
  | [], _ => (true, [])
  | .short limit :: sends, length => (decide (length ≤ limit), sends)
  | .fail error :: sends, length =>
    if error = .interrupted then accepts sends length else (false, sends)

theorem send_of_fail {error : IoError} (hplan : kernel.sends = .fail error :: sends) :
    Channel.send kernel frame = (.error error, { kernel with sends }) := by
  change kernel.send frame = _
  rw [send, hplan]

-- By induction on the plan. A request that is accepted whole is answered.
theorem sendRepeatedly_of_accepts (h : accepts kernel.sends frame.length = (true, sends)) :
    Channel.sendRepeatedly kernel frame =
      (.ok frame.length, { kernel with sends }.answer frame) := by
  induction hplan : kernel.sends generalizing kernel with
  | nil =>
    rw [hplan] at h
    cases h
    have hsame : { kernel with sends := [] } = kernel := by rw [← hplan]
    rw [hsame]
    apply Channel.sendRepeatedly_of_ok
    change kernel.send frame = _
    rw [send, hplan]
  | cons fault plan ih =>
    rw [hplan] at h
    cases fault with
    | short limit =>
      simp only [accepts, Prod.mk.injEq, decide_eq_true_eq] at h
      obtain ⟨hlimit, rfl⟩ := h
      apply Channel.sendRepeatedly_of_ok
      change kernel.send frame = _
      rw [send, hplan]
      simp only [hlimit, if_true]
    | fail error =>
      rw [Channel.sendRepeatedly_of_error (send_of_fail hplan)]
      rw [accepts] at h
      split at h
      · rename_i hinterrupted
        rw [if_pos hinterrupted]
        exact ih h rfl
      · cases h

theorem sendRepeatedly_of_refuses (h : accepts kernel.sends frame.length = (false, sends)) :
    ∃ result, (∀ sent, result = .ok sent → sent ≠ frame.length) ∧
      Channel.sendRepeatedly kernel frame = (result, { kernel with sends }) := by
  induction hplan : kernel.sends generalizing kernel with
  | nil =>
    rw [hplan] at h
    cases h
  | cons fault plan ih =>
    rw [hplan] at h
    cases fault with
    | short limit =>
      simp only [accepts, Prod.mk.injEq, decide_eq_false_iff_not] at h
      obtain ⟨hlimit, rfl⟩ := h
      refine ⟨.ok limit, ?_, Channel.sendRepeatedly_of_ok ?_⟩
      · rintro sent ⟨⟩ rfl
        exact hlimit (Nat.le_refl _)
      · change kernel.send frame = _
        rw [send, hplan]
        simp only [hlimit, if_false]
    | fail error =>
      rw [Channel.sendRepeatedly_of_error (send_of_fail hplan)]
      rw [accepts] at h
      split at h
      · rename_i hinterrupted
        rw [if_pos hinterrupted]
        exact ih h rfl
      · rename_i hother
        cases h
        rw [if_neg hother]
        exact ⟨.error error, by rintro sent ⟨⟩, rfl⟩

theorem arrive_of_queue (hqueue : kernel.queue = message :: queue) :
    ∃ arrived arrivals, (kernel.registered = false → arrived = []) ∧
      kernel.arrive = { kernel with arrivals, queue := message :: (queue ++ arrived) } := by
  unfold arrive
  split
  · rename_i hregistered
    refine ⟨kernel.arrivals.headD [], kernel.arrivals.tail, ?_, by rw [hqueue, List.cons_append]⟩
    intro hunregistered
    rw [hunregistered] at hregistered
    cases hregistered
  · exact ⟨[], kernel.arrivals, fun _ => rfl, by rw [List.append_nil, ← hqueue]⟩

-- As long as no failure is planned, a receive gives what is first in the queue.
theorem receive_of_queue (peek : Peek) (hqueue : kernel.queue = message :: queue)
    (hplan : ∀ error, kernel.receives.head? ≠ some (some error)) :
    ∃ arrived arrivals, (kernel.registered = false → arrived = []) ∧
      Channel.receive kernel capacity mode peek = (.ok (message.received capacity),
        { kernel with
          receives := kernel.receives.tail
          arrivals
          queue := (if peek = .consume then queue else message :: queue) ++ arrived }) := by
  obtain ⟨arrived, arrivals, hbefore, harrive⟩ := arrive_of_queue hqueue
  refine ⟨arrived, arrivals, hbefore, ?_⟩
  change kernel.receive capacity mode peek = _
  unfold receive
  rw [harrive]
  split
  · rename_i error receives hfirst
    exact absurd (congrArg List.head? hfirst) (hplan error)
  · cases peek
    · rfl
    · rfl

-- What is first in the queue is received in the end, by induction on what goes wrong
-- before. More may have arrived by then, but not without a registration.
theorem receiveRepeatedly_of_queue (peek : Peek) (hqueue : kernel.queue = message :: queue)
    (hpatient : ∀ error, some error ∈ kernel.receives → mode.retries error) :
    ∃ receives arrived arrivals, (∀ planned ∈ receives, planned ∈ kernel.receives) ∧
      (kernel.registered = false → arrived = []) ∧
      Channel.receiveRepeatedly kernel capacity mode peek = (.ok (message.received capacity),
        { kernel with
          receives
          arrivals
          queue := (if peek = .consume then queue else message :: queue) ++ arrived }) := by
  induction hplan : kernel.receives generalizing kernel queue with
  | nil =>
    obtain ⟨arrived, arrivals, hbefore, hreceive⟩ :=
      receive_of_queue peek hqueue (by rw [hplan]; simp)
    rw [hplan] at hreceive
    exact ⟨_, arrived, arrivals, by simp, hbefore, Channel.receiveRepeatedly_of_ok hreceive⟩
  | cons planned plan ih =>
    cases planned with
    | none =>
      obtain ⟨arrived, arrivals, hbefore, hreceive⟩ :=
        receive_of_queue peek hqueue (by rw [hplan]; simp)
      rw [hplan] at hreceive
      exact ⟨_, arrived, arrivals, fun _ h => List.mem_cons_of_mem _ h, hbefore,
        Channel.receiveRepeatedly_of_ok hreceive⟩
    | some error =>
      obtain ⟨arrived, arrivals, hbefore, harrive⟩ := arrive_of_queue hqueue
      have hreceive : Channel.receive kernel capacity mode peek = (.error error,
          { kernel with arrivals, receives := plan, queue := message :: (queue ++ arrived) }) := by
        change kernel.receive capacity mode peek = _
        rw [receive, harrive, hplan]
      have hretries := hpatient error (by rw [hplan]; simp)
      obtain ⟨receives, arrived', arrivals', hfewer, hbefore', hrest⟩ :=
        @ih { kernel with arrivals, receives := plan, queue := message :: (queue ++ arrived) }
          (queue ++ arrived) rfl (fun error h => hpatient error (by rw [hplan]; simp [h])) rfl
      refine ⟨receives, arrived ++ arrived', arrivals', ?_, ?_, ?_⟩
      · exact fun planned h => List.mem_cons_of_mem _ (hfewer planned h)
      · intro hunregistered
        rw [hbefore hunregistered, hbefore' hunregistered, List.append_nil]
      · rw [Channel.receiveRepeatedly_of_error hreceive, if_pos hretries, hrest]
        cases peek
        · simp
        · simp

-- A receive that does not wait keeps what the kernel was told, and never waits forever.
theorem receive_nonBlocking {result : Except IoError Datagram} {kernel' : AnsweringKernel}
    (h : Channel.receive kernel capacity .nonBlocking peek = (result, kernel')) :
    kernel'.requests = kernel.requests ∧ kernel'.starved = kernel.starved := by
  have harrive : kernel.arrive.requests = kernel.requests ∧ kernel.arrive.starved = kernel.starved := by
    unfold arrive
    split
    · exact ⟨rfl, rfl⟩
    · exact ⟨rfl, rfl⟩
  change kernel.receive capacity .nonBlocking peek = _ at h
  unfold receive take at h
  grind

theorem receiveRepeatedly_nonBlocking (kernel : AnsweringKernel) (peek : Peek) :
    let kernel' := (Channel.receiveRepeatedly kernel capacity .nonBlocking peek).2
    kernel'.requests = kernel.requests ∧ kernel'.starved = kernel.starved := by
  fun_induction Channel.receiveRepeatedly kernel capacity .nonBlocking peek with
  | case1 kernel datagram kernel' hreceive => exact receive_nonBlocking hreceive
  | case2 kernel error kernel' hreceive hretries hless ih =>
    obtain ⟨hrequests, hstarved⟩ := receive_nonBlocking hreceive
    exact ⟨ih.1.trans hrequests, ih.2.trans hstarved⟩
  | case3 kernel error kernel' hreceive hretries => exact receive_nonBlocking hreceive

-- How far the two sides have come: what is planned for the sends to come, and how many
-- requests were answered.
structure Standing where
  sends : List SendFault
  answered : Nat

def standing (kernel : AnsweringKernel) : Standing := ⟨kernel.sends, kernel.requests.length⟩

-- The answer that belongs to a request, if there is a request at all and it is accepted
-- whole. All that counts is how long it is.
def Standing.submit (answers : Nat → Answer) (standing : Standing) :
    (length? : Option Nat) → Option Answer × Standing
  | none => (none, standing)
  | some length =>
    match accepts standing.sends length with
    | (true, sends) => (some (answers standing.answered), ⟨sends, standing.answered + 1⟩)
    | (false, sends) => (none, ⟨sends, standing.answered⟩)

def Standing.submitAll (answers : Nat → Answer) (standing : Standing) :
    (lengths : List (Option Nat)) → List (Option Answer) × Standing
  | [] => ([], standing)
  | length? :: lengths =>
    let (answer?, standing) := standing.submit answers length?
    let (rest, standing) := standing.submitAll answers lengths
    (answer? :: rest, standing)

theorem Standing.submitAll_append (answers : Nat → Answer) (standing : Standing)
    (lengths lengths' : List (Option Nat)) :
    standing.submitAll answers (lengths ++ lengths') =
      let first := standing.submitAll answers lengths
      let rest := first.2.submitAll answers lengths'
      (first.1 ++ rest.1, rest.2) := by
  induction lengths generalizing standing with
  | nil => rfl
  | cons length? lengths ih => simp only [List.cons_append, submitAll, ih]

theorem Standing.length_submitAll (answers : Nat → Answer) (standing : Standing)
    (lengths : List (Option Nat)) :
    (standing.submitAll answers lengths).1.length = lengths.length := by
  induction lengths generalizing standing with
  | nil => rfl
  | cons length? lengths ih => simp only [submitAll, List.length_cons, ih]

-- A request that has an answer of its own was accepted whole, and is answered.
theorem sendRepeatedly_of_submit {own : Answer} {standing : Standing}
    (hsubmit : kernel.standing.submit kernel.answers (some frame.length) = (some own, standing)) :
    let kernel' := { kernel with sends := standing.sends }.answer frame
    own = kernel.answers kernel.requests.length ∧ kernel'.standing = standing ∧
      Channel.sendRepeatedly kernel frame = (.ok frame.length, kernel') := by
  rcases haccepts : accepts kernel.sends frame.length with ⟨_ | _, sends⟩
  · simp [Standing.submit, AnsweringKernel.standing, haccepts] at hsubmit
  · simp only [Standing.submit, AnsweringKernel.standing, haccepts, Prod.mk.injEq,
      Option.some.injEq] at hsubmit
    obtain ⟨rfl, rfl⟩ := hsubmit
    refine ⟨rfl, ?_, sendRepeatedly_of_accepts haccepts⟩
    rw [AnsweringKernel.standing, answer, List.length_append]
    rfl

-- A kernel between two requests, before the registration: nothing is left to receive, and
-- receives get through in the end.
structure Resting (kernel : AnsweringKernel) : Prop where
  queue : kernel.queue = []
  unregistered : kernel.registered = false
  patient : ∀ error, some error ∈ kernel.receives → ReceiveMode.blocking.retries error
  fed : kernel.starved = false

-- The other kernel is the same one later, between two requests as well.
structure Continues (kernel kernel' : AnsweringKernel) (standing : Standing) : Prop where
  resting : kernel'.Resting
  answers : kernel'.answers = kernel.answers
  standing : kernel'.standing = standing

theorem Continues.trans {kernel kernel' kernel'' : AnsweringKernel} {standing standing' : Standing}
    (h : kernel.Continues kernel' standing) (h' : kernel'.Continues kernel'' standing') :
    kernel.Continues kernel'' standing' :=
  ⟨h'.resting, h'.answers.trans h.answers, h'.standing⟩

end AnsweringKernel

namespace Client

variable {kernel kernel' : AnsweringKernel} {answer : Answer} {sequence : UInt32} {mode : ReceiveMode}
  {peek : Peek}

-- An answer is received as it was sent.
theorem receive_of_answer (envelope : Envelope)
    (h : Channel.receiveRepeatedly kernel capacity mode peek =
      (.ok ((⟨answer.frame sequence, ⟨Sender.kernelAddressLength, 0⟩⟩ : Message).received capacity),
        kernel')) :
    Exchange.receive kernel envelope mode peek =
      pure (.ok (some (answer.reply sequence)), kernel',
        envelope.overlay (answer.frame sequence)) := by
  have hwhole : (answer.frame sequence).take capacity = answer.frame sequence :=
    List.take_of_length_le (by rw [Answer.length_frame]; exact answer.fits)
  simp only [Exchange.receive, h, Message.received, hwhole, Exchange.accept, ne_eq,
    not_true_eq_false, if_false, Answer.decode_frame]
  rfl

theorem compare_of_answer (s : AnsweringKernel) (answer : Answer) (sequence : UInt32) :
    awaitAck.compare sequence s (answer.reply sequence) = pure (.ok (), s) := by
  have hsequence : (answer.reply sequence).sequence = sequence := rfl
  rw [awaitAck.compare, if_neg (not_not_intro hsequence)]

-- A wait that can look at an answer and take it comes to what the answer says.
theorem awaitAck_of_received {kernel'' : AnsweringKernel} {number : UInt32}
    (hpeek : Channel.receiveRepeatedly kernel capacity .blocking .peekOnly =
      (.ok ((⟨answer.frame number, ⟨Sender.kernelAddressLength, 0⟩⟩ : Message).received capacity),
        kernel'))
    (htake : Channel.receiveRepeatedly kernel' capacity .blocking .consume =
      (.ok ((⟨answer.frame number, ⟨Sender.kernelAddressLength, 0⟩⟩ : Message).received capacity),
        kernel''))
    (sequence : UInt32) :
    awaitAck kernel sequence =
      if answer.code = 0 then awaitAck.compare sequence kernel'' (answer.reply number)
      else pure (.error (.kernel sequence answer.error), kernel'') := by
  have hnotice : (answer.reply number).notice? = some answer.notice := rfl
  have htaken := receive_of_answer (Envelope.zero.overlay (answer.frame number)) htake
  simp only [awaitAck, receive_of_answer Envelope.zero hpeek, pure_bind, hnotice, htaken,
    Option.isNone_some, Bool.false_eq_true, if_false]
  by_cases hack : answer.code = 0
  · have hisAck : answer.notice.isAck = true := beq_iff_eq.mpr hack
    rw [if_pos hisAck, if_pos hack]
  · have hisAck : ¬answer.notice.isAck = true := fun h => hack (beq_iff_eq.mp h)
    rw [if_neg hisAck, if_neg hack]
    rfl

-- A wait for an answer that is there takes it, says what it says, and has nothing to tell.
theorem awaitAck_of_answer (hqueue : kernel.queue = [{ frame := answer.frame sequence }])
    (hpatient : ∀ error, some error ∈ kernel.receives → ReceiveMode.blocking.retries error) :
    ∃ receives arrived arrivals, (∀ planned ∈ receives, planned ∈ kernel.receives) ∧
      (kernel.registered = false → arrived = []) ∧
      awaitAck kernel sequence =
        pure (if answer.code = 0 then .ok () else .error (.kernel sequence answer.error),
          { kernel with receives, arrivals, queue := arrived }) := by
  obtain ⟨receives, arrived, arrivals, hfewer, hbefore, hpeek⟩ :=
    AnsweringKernel.receiveRepeatedly_of_queue .peekOnly hqueue hpatient
  obtain ⟨receives', arrived', arrivals', hfewer', hbefore', htake⟩ :=
    @AnsweringKernel.receiveRepeatedly_of_queue
      { kernel with receives, arrivals, queue := { frame := answer.frame sequence } :: arrived }
      _ _ _ .consume rfl (fun error h => hpatient error (hfewer _ h))
  refine ⟨receives', arrived ++ arrived', arrivals', fun planned h => hfewer _ (hfewer' _ h), ?_, ?_⟩
  · intro hunregistered
    rw [hbefore hunregistered, hbefore' hunregistered, List.append_nil]
  · simp only [reduceCtorEq, if_false, List.cons_append, List.nil_append] at hpeek
    rw [awaitAck_of_received hpeek htake, compare_of_answer]
    split
    · rfl
    · rfl

section Send

open AnsweringKernel

variable {client : Client AnsweringKernel} {messageType : UInt16} {payload : Bytes} {length : Nat}
  {standing : Standing}

theorem send_of_unsent {error : ExchangeError} {sequence : SequenceCounter}
    (h : (Exchange.send client.channel client.sequence messageType payload).value =
      (.error error, kernel, sequence)) :
    (client.send messageType payload).value = (.error error, ⟨kernel, sequence⟩) ∧
      (client.send messageType payload).InStep := by
  constructor
  · simp only [send, Traced.value_bind, h]
    rfl
  · refine .bind (Exchange.send_inStep _ _ _ _) ?_
    rw [h]
    exact Traced.inStep_pure _

theorem send_of_too_long (h : requestLength? payload.length = none) :
    (client.send messageType payload).value =
        (.error (.payloadTooLarge payload.length maxPayloadLength), client) ∧
      (client.send messageType payload).InStep :=
  send_of_unsent (Exchange.send_of_too_long h)

-- A request that was not accepted whole fails, and the kernel never hears of it.
theorem send_of_refused (hlength : requestLength? payload.length = some length)
    (hsubmit : client.channel.standing.submit client.channel.answers (some length) = (none, standing)) :
    ∃ error, (client.send messageType payload).value = (.error error,
        ⟨{ client.channel with sends := standing.sends }, client.sequence.advance.value.2⟩) ∧
      standing.answered = client.channel.requests.length ∧
      (∀ number source, error ≠ .kernel number source) ∧
      (client.send messageType payload).InStep := by
  have hframe := Envelope.length_requestBytes hlength messageType client.sequence.advance.value.1
  rcases haccepts : accepts client.channel.sends length with ⟨_ | _, sends⟩
  · simp only [Standing.submit, AnsweringKernel.standing, haccepts, Prod.mk.injEq, true_and]
      at hsubmit
    subst hsubmit
    rw [← hframe] at haccepts
    obtain ⟨result, hshort, hsent⟩ := sendRepeatedly_of_refuses haccepts
    cases result with
    | ok sent =>
      have hgiven := Exchange.send_of_short hlength hsent (hframe ▸ hshort sent rfl)
      refine ⟨_, (send_of_unsent hgiven).1, rfl, ?_, (send_of_unsent hgiven).2⟩
      simp
    | error error =>
      have hgiven := Exchange.send_of_error hlength hsent
      refine ⟨_, (send_of_unsent hgiven).1, rfl, ?_, (send_of_unsent hgiven).2⟩
      simp
  · simp [Standing.submit, AnsweringKernel.standing, haccepts] at hsubmit

-- A request that was accepted whole gets the answer that belongs to it.
theorem send_of_answered {answer : Answer} (hrest : client.channel.Resting)
    (hlength : requestLength? payload.length = some length)
    (hsubmit : client.channel.standing.submit client.channel.answers (some length) =
      (some answer, standing)) :
    let number := client.sequence.advance.value.1
    let request := Envelope.requestBytes length messageType number payload
    ∃ receives arrived arrivals,
      (∀ planned ∈ receives, planned ∈ client.channel.receives) ∧
      (isRegistration request = false → arrived = []) ∧
      standing.answered = client.channel.requests.length + 1 ∧
      (client.send messageType payload).value =
        (if answer.code = 0 then .ok number else .error (.kernel number answer.error), {
          channel := { client.channel.answer request with
            sends := standing.sends
            receives
            arrivals
            queue := arrived }
          sequence := client.sequence.advance.value.2 }) ∧
      (client.send messageType payload).InStep := by
  intro number request
  have hframe : request.length = length := Envelope.length_requestBytes hlength messageType number
  rw [← hframe] at hsubmit
  obtain ⟨rfl, hstanding, hsent⟩ := sendRepeatedly_of_submit hsubmit
  rw [hframe] at hsent
  have hqueue : ({ client.channel with sends := standing.sends }.answer request).queue =
      [{ frame := (client.channel.answers client.channel.requests.length).frame number }] := by
    rw [AnsweringKernel.answer, sequence_requestBytes, hrest.queue]
    rfl
  obtain ⟨receives, arrived, arrivals, hfewer, hbefore, hawait⟩ :=
    awaitAck_of_answer hqueue hrest.patient
  refine ⟨receives, arrived, arrivals, hfewer, ?_, ?_, ?_, ?_⟩
  · intro hother
    exact hbefore (by rw [AnsweringKernel.answer, hrest.unregistered, hother]; rfl)
  · rw [← hstanding, AnsweringKernel.standing, AnsweringKernel.answer, List.length_append]
    rfl
  · simp only [send, Traced.value_bind, Exchange.send_of_ok hlength hsent]
    rw [hawait]
    split
    · rfl
    · rfl
  · refine .bind (Exchange.send_inStep _ _ _ _) ?_
    rw [Exchange.send_of_ok hlength hsent]
    refine .bind ?_ (Traced.inStep_pure _)
    rw [hawait]
    exact Traced.inStep_pure _

-- A request other than the registration: it goes well if the answer that belongs to it says
-- so, and leaves the kernel as it should be for the next one.
theorem send_of_resting (hrest : client.channel.Resting)
    (hother : ∀ length number,
      isRegistration (Envelope.requestBytes length messageType number payload) = false)
    {answer? : Option Answer}
    (hsubmit : client.channel.standing.submit client.channel.answers
      (requestLength? payload.length) = (answer?, standing)) :
    ∃ result client', (client.send messageType payload).value = (result, client') ∧
      result.isOk = answer?.any (·.code == 0) ∧
      client.channel.Continues client'.channel standing ∧
      (client.send messageType payload).InStep := by
  cases hlength : requestLength? payload.length with
  | none =>
    rw [hlength] at hsubmit
    cases hsubmit
    obtain ⟨hvalue, hstep⟩ := send_of_too_long hlength
    exact ⟨_, _, hvalue, rfl, ⟨hrest, rfl, rfl⟩, hstep⟩
  | some length =>
    rw [hlength] at hsubmit
    cases answer? with
    | none =>
      obtain ⟨error, hvalue, hanswered, -, hstep⟩ := send_of_refused hlength hsubmit
      refine ⟨_, _, hvalue, rfl, ⟨⟨hrest.queue, hrest.unregistered, hrest.patient, hrest.fed⟩, rfl, ?_⟩,
        hstep⟩
      rw [AnsweringKernel.standing, ← hanswered]
    | some answer =>
      obtain ⟨receives, arrived, arrivals, hfewer, hbefore, hanswered, hvalue, hstep⟩ :=
        send_of_answered hrest hlength hsubmit
      have hnotRegistered := hother length client.sequence.advance.value.1
      refine ⟨_, _, hvalue, ?_, ⟨⟨hbefore hnotRegistered, ?_, ?_, hrest.fed⟩, rfl, ?_⟩, hstep⟩
      · by_cases hack : answer.code = 0
        · simp [hack, Except.isOk, Except.toBool]
        · simp [hack, Except.isOk, Except.toBool]
      · rw [AnsweringKernel.answer, hrest.unregistered, hnotRegistered]
        rfl
      · exact fun error h => hrest.patient error (hfewer _ h)
      · rw [AnsweringKernel.standing, AnsweringKernel.answer, List.length_append, List.length_singleton,
          ← hanswered]

end Send

end Client

end AuditCollector
