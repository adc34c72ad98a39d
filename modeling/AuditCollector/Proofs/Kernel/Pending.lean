import AuditCollector.Proofs.Client.Requests
import AuditCollector.Proofs.Client.Waiting
import AuditCollector.Proofs.Kernel.Backlog

namespace AuditCollector

open AuditCollector.Frame AuditCollector.Scripted

namespace AnsweringKernel

variable {kernel kernel' : AnsweringKernel} {mode : ReceiveMode} {peek : Peek} {error : IoError}
  {datagram : Datagram}

-- What is still to be received, in the order in which it comes.
def pending (kernel : AnsweringKernel) : List Message := kernel.queue ++ kernel.arrivals.flatten

theorem pending_of_quiet (hquiet : kernel.arrivals = []) : kernel.pending = kernel.queue := by
  rw [pending, hquiet, List.flatten_nil, List.append_nil]

theorem quiet_receive (kernel : AnsweringKernel) (capacity : Nat) (mode : ReceiveMode) (peek : Peek)
    (hquiet : kernel.arrivals = []) : (Channel.receive kernel capacity mode peek).2.arrivals = [] := by
  change (kernel.receive capacity mode peek).2.arrivals = []
  unfold receive take
  rw [arrive_of_quiet hquiet]
  grind

-- What a receive can give of what is pending, and what is pending then: the first message, or a
-- failure that changes nothing.
def Gives (pending : List Message) (peek : Peek) : Except IoError Datagram → List Message → Prop
  | .error _, pending' => pending' = pending
  | .ok datagram, pending' => ∃ message rest, pending = message :: rest ∧
    datagram = message.received capacity ∧ pending' = if peek = .consume then rest else pending

theorem pending_arrive (kernel : AnsweringKernel) : kernel.arrive.pending = kernel.pending := by
  unfold arrive pending
  split
  · cases kernel.arrivals with
    | nil => simp
    | cons first rest => simp
  · rfl

theorem take_gives (kernel : AnsweringKernel) (mode : ReceiveMode) (peek : Peek) :
    Gives kernel.pending peek (kernel.take capacity mode peek).1
      (kernel.take capacity mode peek).2.pending := by
  unfold take
  split
  · split
    · rfl
    · rfl
  · rename_i message queue hqueue
    refine ⟨message, queue ++ kernel.arrivals.flatten, by rw [pending, hqueue, List.cons_append], rfl, ?_⟩
    cases peek with
    | consume => rfl
    | peekOnly => rfl

theorem receive_gives (kernel : AnsweringKernel) (mode : ReceiveMode) (peek : Peek) :
    Gives kernel.pending peek (Channel.receive kernel capacity mode peek).1
      (Channel.receive kernel capacity mode peek).2.pending := by
  rw [← pending_arrive kernel]
  change Gives _ peek (kernel.receive capacity mode peek).1 (kernel.receive capacity mode peek).2.pending
  unfold receive
  split
  · rfl
  · exact take_gives { kernel.arrive with receives := kernel.arrive.receives.tail } mode peek

-- By induction on the failures before it.
theorem receiveRepeatedly_gives (kernel : AnsweringKernel) (mode : ReceiveMode) (peek : Peek) :
    Gives kernel.pending peek (Channel.receiveRepeatedly kernel capacity mode peek).1
      (Channel.receiveRepeatedly kernel capacity mode peek).2.pending := by
  fun_induction Channel.receiveRepeatedly kernel capacity mode peek with
  | case1 kernel datagram kernel' hreceive =>
    have hgives := receive_gives kernel mode peek
    rwa [hreceive] at hgives
  | case2 kernel error kernel' hreceive hretries hless ih =>
    have hsame : Gives kernel.pending peek (.error error) kernel'.pending := by
      have hgives := receive_gives kernel mode peek
      rwa [hreceive] at hgives
    rwa [hsame] at ih
  | case3 kernel error kernel' hreceive hretries =>
    have hgives := receive_gives kernel mode peek
    rwa [hreceive] at hgives

theorem pending_of_failure
    (h : Channel.receiveRepeatedly kernel capacity mode peek = (.error error, kernel')) :
    kernel'.pending = kernel.pending := by
  have hgives := receiveRepeatedly_gives kernel mode peek
  rwa [h] at hgives

theorem pending_of_message
    (h : Channel.receiveRepeatedly kernel capacity mode peek = (.ok datagram, kernel')) :
    ∃ message rest, kernel.pending = message :: rest ∧ datagram = message.received capacity ∧
      kernel'.pending = if peek = .consume then rest else kernel.pending := by
  have hgives := receiveRepeatedly_gives kernel mode peek
  rwa [h] at hgives

theorem received_of_pending {message : Message} {rest : List Message}
    (hfirst : kernel.pending = message :: rest)
    (h : Channel.receiveRepeatedly kernel capacity mode peek = (.ok datagram, kernel')) :
    datagram = message.received capacity ∧
      kernel'.pending = if peek = .consume then rest else kernel.pending := by
  obtain ⟨message', rest', hfirst', hdatagram, hpending⟩ := pending_of_message h
  rw [hfirst] at hfirst'
  cases hfirst'
  exact ⟨hdatagram, hpending⟩

-- A wait for an answer takes nothing, or takes what is first if that is a notice.
theorem pending_awaitAck (kernel : AnsweringKernel) (sequence : UInt32) :
    let kernel' := (Client.awaitAck kernel sequence).value.2
    kernel'.pending = kernel.pending ∨ ∃ message : Message,
      kernel.pending = message :: kernel'.pending ∧ (message.received capacity).isNotice = true := by
  intro kernel'
  rcases hpeek : Channel.receiveRepeatedly kernel capacity .blocking .peekOnly
    with ⟨error | datagram, looked⟩
  · have hpeeked := Exchange.receive_of_error hpeek Envelope.zero
    rw [if_neg (by simp)] at hpeeked
    have hkernel : kernel' = looked := congrArg Prod.snd (Client.awaitAck_of_peek_error hpeeked sequence)
    rw [hkernel]
    exact .inl (pending_of_failure hpeek)
  obtain ⟨message, rest, hfirst, rfl, hlooked⟩ := pending_of_message hpeek
  rw [if_neg (by decide)] at hlooked
  have hagain : looked.pending = message :: rest := hlooked.trans hfirst
  rcases htake : Channel.receiveRepeatedly looked capacity .blocking .consume with ⟨taken, left⟩
  have hsame : ∀ again, taken = .ok again → again = message.received capacity := by
    rintro again rfl
    exact (received_of_pending hagain htake).1
  rcases Client.awaitAck_of_peeked (Nat.le_refl _) hpeek htake hsame sequence with
    ⟨-, hkernel⟩ | ⟨hends, rfl, hkernel⟩ | ⟨error, rfl, hrun⟩
  · exact .inl ((congrArg pending hkernel).trans hlooked)
  · have hleft := (received_of_pending hagain htake).2
    rw [if_pos rfl] at hleft
    refine .inr ⟨message, ?_, hends.isNotice⟩
    rw [hfirst, ← hleft]
    exact congrArg (message :: ·) (congrArg pending hkernel.symm)
  · have hkernel : kernel' = left := congrArg Prod.snd hrun
    rw [hkernel]
    exact .inl ((pending_of_failure htake).trans hlooked)

-- As long as every failure is one after which the receive is made again, the first message decides.
theorem awaitAck_ends {message : Message} {queue : List Message} (hqueue : kernel.queue = message :: queue)
    (hpatient : ∀ error, some error ∈ kernel.receives → ReceiveMode.blocking.retries error)
    (sequence : UInt32) :
    let run := (Client.awaitAck kernel sequence).value
    ∃ taken, (message.received capacity).Ends sequence run.1 taken ∧
      run.2.pending = if taken then kernel.pending.tail else kernel.pending := by
  intro run
  obtain ⟨receives, arrived, arrivals, hfewer, -, hpeek⟩ :=
    receiveRepeatedly_of_queue .peekOnly hqueue hpatient
  obtain ⟨receives', arrived', arrivals', -, -, htake⟩ :=
    @receiveRepeatedly_of_queue { kernel with receives, arrivals, queue := message :: (queue ++ arrived) }
      _ _ _ .consume rfl (fun error h => hpatient error (hfewer _ h))
  obtain ⟨message', rest, hfirst, -, hlooked⟩ := pending_of_message hpeek
  rw [if_neg (by decide)] at hlooked
  have hleft := (received_of_pending (hlooked.trans hfirst) htake).2
  have hsame : ∀ again, (.ok (message.received capacity) : Except IoError Datagram) = .ok again →
      again = message.received capacity := fun again h => (Except.ok.inj h).symm
  rcases Client.awaitAck_of_peeked (Nat.le_refl _) hpeek htake hsame sequence with
    ⟨hends, hkernel⟩ | ⟨hends, -, hkernel⟩ | ⟨error, hfail, -⟩
  · exact ⟨false, hends, (congrArg pending hkernel).trans hlooked⟩
  · refine ⟨true, hends, (congrArg pending hkernel).trans ?_⟩
    rw [hleft, if_pos rfl, hfirst]
    rfl
  · cases hfail

-- The messages to come that are no notices of the kernel.
def others (kernel : AnsweringKernel) : List Message :=
  kernel.pending.filter fun message => !(message.received capacity).isNotice

theorem others_awaitAck (kernel : AnsweringKernel) (sequence : UInt32) :
    (Client.awaitAck kernel sequence).value.2.others = kernel.others := by
  rcases pending_awaitAck kernel sequence with hsame | ⟨message, hfirst, hnotice⟩
  · rw [others, others, hsame]
  · rw [others, others, hfirst, List.filter_cons_of_neg (by rw [hnotice]; decide)]

end AnsweringKernel

theorem Answer.isNotice_received (answer : Answer) (sequence : UInt32) :
    (({ frame := answer.frame sequence } : Message).received capacity).isNotice = true := by
  have hwhole : (answer.frame sequence).take capacity = answer.frame sequence :=
    List.take_of_length_le (by rw [Answer.length_frame]; exact answer.fits)
  have hdecoded : (({ frame := answer.frame sequence } : Message).received capacity).decoded =
      .ok (answer.reply sequence) := by
    simp only [Datagram.decoded, Message.received, hwhole, Answer.decode_frame]
  rw [Datagram.isNotice, hdecoded]
  rfl

namespace AnsweringKernel

-- What a request adds to what is pending is a notice.
theorem others_answer (kernel : AnsweringKernel) (request : Bytes) :
    (kernel.answer request).others = kernel.others := by
  simp only [others, pending, answer, List.append_assoc, List.filter_append,
    List.filter_cons, Answer.isNotice_received, Bool.not_true, Bool.false_eq_true, if_false,
    List.filter_nil, List.nil_append]

theorem others_send (kernel : AnsweringKernel) (frame : Bytes) :
    (Channel.send kernel frame).2.others = kernel.others := by
  change (kernel.send frame).2.others = _
  unfold send
  split
  · rfl
  · split
    · exact others_answer _ frame
    · rfl
  · exact others_answer kernel frame

end AnsweringKernel

namespace Client

-- Makes requests one after the other, whatever becomes of each.
def sendAll {σ : Type} [Channel σ] (client : Client σ) (requests : List Request) : Client σ :=
  requests.foldl (fun client request => (client.send request.messageType request.payload).value.2) client

theorem others_sendAll (client : Client AnsweringKernel) (requests : List Request) :
    (client.sendAll requests).channel.others = client.channel.others := by
  induction requests generalizing client with
  | nil => rfl
  | cons request requests ih =>
    have hsend : (client.send request.messageType request.payload).value.2.channel.others =
        client.channel.others :=
      @send_preserves _ client _ (fun kernel => kernel.others = client.channel.others)
        (fun kernel frame h => (AnsweringKernel.others_send kernel frame).trans h)
        (fun kernel sequence h => (AnsweringKernel.others_awaitAck kernel sequence).trans h) rfl
        request.messageType request.payload
    exact (ih _).trans hsend

-- A wait for the answer to a request takes nothing out of the queue but a notice that is first in
-- it, and says what that says. Unless a receive fails for good, it ends as the first message
-- decides, and what is no notice stays where it is. So no requests use up what is meant for the log.
theorem awaitAck_takes_notices (answers : Nat → Answer) (queue : List Message)
    (receives : List (Option IoError)) (sequence : UInt32) :
    let run := (awaitAck ({ answers, queue, receives } : AnsweringKernel) sequence).value
    (run.2.queue = queue ∨ ∃ head : Message,
      queue = head :: run.2.queue ∧ (head.received 8986).isNotice = true) ∧
    (∀ (head : Message) (rest : List Message), queue = head :: rest →
      (∀ error, some error ∈ receives → error = .os 4 ∨ error = .os 11) →
        ∃ taken, (head.received 8986).Ends sequence run.1 taken ∧
          run.2.queue = if taken then rest else queue) ∧
    ∀ (client : Client AnsweringKernel) (requests : List Request),
      (client.sendAll requests).channel.others = client.channel.others := by
  intro run
  have hquiet : run.2.arrivals = [] := awaitAck_preserves AnsweringKernel.quiet_receive rfl sequence
  have hbefore : ({ answers, queue, receives } : AnsweringKernel).pending = queue :=
    AnsweringKernel.pending_of_quiet rfl
  have hafter : run.2.pending = run.2.queue := AnsweringKernel.pending_of_quiet hquiet
  refine ⟨?_, fun head rest hqueue hpatient => ?_, others_sendAll⟩
  · have hpending := AnsweringKernel.pending_awaitAck { answers, queue, receives } sequence
    simp only [hbefore] at hpending
    rwa [hafter] at hpending
  · obtain ⟨taken, hends, hpending⟩ := @AnsweringKernel.awaitAck_ends { answers, queue, receives }
      head rest hqueue (fun error herror => (hpatient error herror).imp_right fun hblock => ⟨rfl, hblock⟩)
      sequence
    refine ⟨taken, hends, ?_⟩
    rw [← hafter, hpending, hbefore, hqueue]
    rfl

end Client

end AuditCollector
