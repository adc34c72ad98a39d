import Mathlib.Data.List.Forall2
import AuditCollector.Proofs.Client.Send
import AuditCollector.Proofs.Kernel.Requests

namespace AuditCollector

open AuditCollector.Frame AuditCollector.Scripted

-- What makes a receive fail that is repeated where the mode calls for it, if anything does,
-- and the plan after it.
def ReceiveMode.fault (mode : ReceiveMode) :
    List (Option IoError) → Option IoError × List (Option IoError)
  | [] => (none, [])
  | none :: plan => (none, plan)
  | some error :: plan => if mode.retries error then mode.fault plan else (some error, plan)

section Fault

variable {mode : ReceiveMode} {before after rest : List (Option IoError)} {error : IoError}

theorem ReceiveMode.fault_of_patient (hpatient : ∀ error, some error ∈ after → mode.retries error) :
    ∃ after', mode.fault after = (none, after') ∧ ∀ planned ∈ after', planned ∈ after := by
  induction after with
  | nil => exact ⟨[], rfl, by simp⟩
  | cons planned after ih =>
    cases planned with
    | none => exact ⟨after, rfl, fun _ h => List.mem_cons_of_mem _ h⟩
    | some error =>
      obtain ⟨after', hfault, hfewer⟩ := ih (fun error h => hpatient error (List.mem_cons_of_mem _ h))
      refine ⟨after', ?_, fun planned h => List.mem_cons_of_mem _ (hfewer planned h)⟩
      rw [fault, if_pos (hpatient error List.mem_cons_self), hfault]

-- As long as only interruptions are planned the receive is made again.
theorem ReceiveMode.fault_append_of_interruptions
    (hpatient : ∀ error, some error ∈ before → mode.retries error)
    (hnone : before.countP Option.isNone = 0) (rest : List (Option IoError)) :
    mode.fault (before ++ rest) = mode.fault rest := by
  induction before with
  | nil => rfl
  | cons planned before ih =>
    cases planned with
    | none => simp at hnone
    | some error =>
      rw [List.countP_cons_of_neg (by simp)] at hnone
      rw [List.cons_append, fault, if_pos (hpatient error List.mem_cons_self)]
      exact ih (fun error h => hpatient error (List.mem_cons_of_mem _ h)) hnone

theorem ReceiveMode.fault_append_of_receive
    (hpatient : ∀ error, some error ∈ before → mode.retries error)
    (hsome : 0 < before.countP Option.isNone) (rest : List (Option IoError)) :
    ∃ before', mode.fault (before ++ rest) = (none, before' ++ rest) ∧
      before'.countP Option.isNone + 1 = before.countP Option.isNone ∧
      ∀ planned ∈ before', planned ∈ before := by
  induction before with
  | nil => simp at hsome
  | cons planned before ih =>
    cases planned with
    | none =>
      exact ⟨before, rfl, (List.countP_cons_of_pos rfl).symm, fun _ h => List.mem_cons_of_mem _ h⟩
    | some error =>
      rw [List.countP_cons_of_neg (by simp)] at hsome ⊢
      obtain ⟨before', hfault, hcount, hfewer⟩ :=
        ih (fun error h => hpatient error (List.mem_cons_of_mem _ h)) hsome
      refine ⟨before', ?_, hcount, fun planned h => List.mem_cons_of_mem _ (hfewer planned h)⟩
      rw [List.cons_append, fault, if_pos (hpatient error List.mem_cons_self), hfault]

-- A wait for an answer looks at it and takes it.
def waitFault (plan : List (Option IoError)) : Option IoError × List (Option IoError) :=
  match ReceiveMode.blocking.fault plan with
  | (none, plan) => ReceiveMode.blocking.fault plan
  | (some error, plan) => (some error, plan)

theorem waitFault_of_look (hpeek : ReceiveMode.blocking.fault before = (none, after)) :
    waitFault before = ReceiveMode.blocking.fault after := by
  rw [waitFault, hpeek]

theorem waitFault_of_patient
    (hpatient : ∀ error, some error ∈ after → ReceiveMode.blocking.retries error) :
    ∃ after', waitFault after = (none, after') ∧ ∀ planned ∈ after', planned ∈ after := by
  obtain ⟨after', hpeek, hfewer⟩ := ReceiveMode.fault_of_patient hpatient
  obtain ⟨after'', htake, hfewer'⟩ :=
    ReceiveMode.fault_of_patient fun error h => hpatient error (hfewer _ h)
  exact ⟨after'', (waitFault_of_look hpeek).trans htake, fun _ h => hfewer _ (hfewer' _ h)⟩

-- Two receives that work are one wait that works.
theorem waitFault_append_of_receives
    (hpatient : ∀ error, some error ∈ before → ReceiveMode.blocking.retries error)
    (hsome : 2 ≤ before.countP Option.isNone) (rest : List (Option IoError)) :
    ∃ before', waitFault (before ++ rest) = (none, before' ++ rest) ∧
      before'.countP Option.isNone + 2 = before.countP Option.isNone ∧
      ∀ planned ∈ before', planned ∈ before := by
  obtain ⟨before', hpeek, hcount, hfewer⟩ :=
    ReceiveMode.fault_append_of_receive hpatient (by omega) rest
  obtain ⟨before'', htake, hcount', hfewer'⟩ := ReceiveMode.fault_append_of_receive
    (fun error h => hpatient error (hfewer _ h)) (by omega) rest
  exact ⟨before'', (waitFault_of_look hpeek).trans htake, by omega, fun _ h => hfewer _ (hfewer' _ h)⟩

-- With less than two before it the failure is met, by the look or by the taking.
theorem waitFault_append_of_failure
    (hpatient : ∀ error, some error ∈ before → ReceiveMode.blocking.retries error)
    (hsome : before.countP Option.isNone < 2) (hfatal : ¬ReceiveMode.blocking.retries error) :
    waitFault (before ++ some error :: after) = (some error, after) := by
  have hmet : ReceiveMode.blocking.fault (some error :: after) = (some error, after) := by
    rw [ReceiveMode.fault, if_neg hfatal]
  by_cases hnone : before.countP Option.isNone = 0
  · rw [waitFault, ReceiveMode.fault_append_of_interruptions hpatient hnone, hmet]
  · obtain ⟨before', hpeek, hcount, hfewer⟩ :=
      ReceiveMode.fault_append_of_receive hpatient (by omega) (some error :: after)
    have htake := ReceiveMode.fault_append_of_interruptions
      (fun error h => hpatient error (hfewer _ h)) (by omega) (some error :: after)
    rw [waitFault_of_look hpeek, htake, hmet]

end Fault

namespace AnsweringKernel

variable {kernel : AnsweringKernel} {message : Message} {queue : List Message}
  {mode : ReceiveMode} {receives : List (Option IoError)} {error : IoError}

theorem arrive_of_quiet (hquiet : kernel.arrivals = []) : kernel.arrive = kernel := by
  unfold arrive
  split
  · rw [hquiet, List.headD_nil, List.append_nil, List.tail_nil, ← hquiet]
  · rfl

theorem receive_of_fault (hquiet : kernel.arrivals = [])
    (hplan : kernel.receives = some error :: receives) (mode : ReceiveMode) (peek : Peek) :
    Channel.receive kernel capacity mode peek = (.error error, { kernel with receives }) := by
  change kernel.receive capacity mode peek = _
  rw [receive, arrive_of_quiet hquiet, hplan]

theorem receive_of_waiting (hquiet : kernel.arrivals = []) (hqueue : kernel.queue = message :: queue)
    (hplan : ∀ error, kernel.receives.head? ≠ some (some error)) (mode : ReceiveMode) (peek : Peek) :
    Channel.receive kernel capacity mode peek = (.ok (message.received capacity),
      { kernel with
        receives := kernel.receives.tail
        queue := if peek = .consume then queue else message :: queue }) := by
  have harrive : kernel.arrive = { kernel with queue := message :: queue } := by
    rw [arrive_of_quiet hquiet, ← hqueue]
  change kernel.receive capacity mode peek = _
  unfold receive
  rw [harrive]
  split
  · rename_i error receives hfirst
    exact absurd (congrArg List.head? hfirst) (hplan error)
  · cases peek
    · rfl
    · rfl

-- By induction on what is planned. What is first in the queue stays there if the receive
-- fails.
theorem receiveRepeatedly_of_fault (hquiet : kernel.arrivals = [])
    (hfault : mode.fault kernel.receives = (some error, receives)) (peek : Peek) :
    Channel.receiveRepeatedly kernel capacity mode peek = (.error error, { kernel with receives }) := by
  induction hplan : kernel.receives generalizing kernel with
  | nil =>
    rw [hplan] at hfault
    cases hfault
  | cons planned plan ih =>
    rw [hplan] at hfault
    cases planned with
    | none => cases hfault
    | some first =>
      rw [Channel.receiveRepeatedly_of_error (receive_of_fault hquiet hplan mode peek)]
      rw [ReceiveMode.fault] at hfault
      split at hfault
      · rename_i hretries
        rw [if_pos hretries]
        exact @ih { kernel with receives := plan } hquiet hfault rfl
      · rename_i hretries
        cases hfault
        rw [if_neg hretries]

theorem receiveRepeatedly_of_waiting (hquiet : kernel.arrivals = [])
    (hqueue : kernel.queue = message :: queue)
    (hfault : mode.fault kernel.receives = (none, receives)) (peek : Peek) :
    Channel.receiveRepeatedly kernel capacity mode peek = (.ok (message.received capacity),
      { kernel with
        receives
        queue := if peek = .consume then queue else message :: queue }) := by
  induction hplan : kernel.receives generalizing kernel with
  | nil =>
    have hfirst := receive_of_waiting hquiet hqueue (by rw [hplan]; simp) mode peek
    rw [hplan] at hfirst hfault
    cases hfault
    exact Channel.receiveRepeatedly_of_ok hfirst
  | cons planned plan ih =>
    cases planned with
    | none =>
      have hfirst := receive_of_waiting hquiet hqueue (by rw [hplan]; simp) mode peek
      rw [hplan] at hfirst hfault
      cases hfault
      exact Channel.receiveRepeatedly_of_ok hfirst
    | some error =>
      rw [Channel.receiveRepeatedly_of_error (receive_of_fault hquiet hplan mode peek)]
      rw [hplan, ReceiveMode.fault] at hfault
      split at hfault
      · rename_i hretries
        rw [if_pos hretries]
        exact @ih { kernel with receives := plan } hquiet hqueue hfault rfl
      · cases hfault

end AnsweringKernel

-- The answers that nobody has read, the oldest first, and what is planned for the receives
-- to come.
structure Backlog where
  receives : List (Option IoError)
  unread : List Answer := []

namespace Backlog

-- What a wait hears: the oldest answer, or nothing if it fails, which leaves them all unread.
def await (backlog : Backlog) : Option Answer × Backlog :=
  match waitFault backlog.receives with
  | (some _, receives) => (none, { backlog with receives })
  | (none, receives) => (backlog.unread.head?, ⟨receives, backlog.unread.tail⟩)

-- What a request hears, once its own answer has joined the others. A request without an
-- answer of its own does not wait.
def hear (backlog : Backlog) : (own? : Option Answer) → Option Answer × Backlog
  | none => (none, backlog)
  | some own => { backlog with unread := backlog.unread ++ [own] }.await

def hearAll (backlog : Backlog) : List (Option Answer) → List (Option Answer) × Backlog
  | [] => ([], backlog)
  | own? :: own =>
    let (heard?, backlog) := backlog.hear own?
    let (heard, backlog) := backlog.hearAll own
    (heard? :: heard, backlog)

theorem hearAll_append (backlog : Backlog) (own own' : List (Option Answer)) :
    backlog.hearAll (own ++ own') =
      let first := backlog.hearAll own
      let rest := first.2.hearAll own'
      (first.1 ++ rest.1, rest.2) := by
  induction own generalizing backlog with
  | nil => rfl
  | cons own? own ih => simp only [List.cons_append, hearAll, ih]

theorem length_hearAll (backlog : Backlog) (own : List (Option Answer)) :
    (backlog.hearAll own).1.length = own.length := by
  induction own generalizing backlog with
  | nil => rfl
  | cons own? own ih => simp only [hearAll, List.length_cons, ih]

-- What is heard by those who come after an answer that was missed: each of them hears what
-- was said to the one before.
def hearLate (missed : Answer) : List (Option Answer) → List (Option Answer)
  | [] => []
  | none :: own => none :: hearLate missed own
  | some answer :: own => some missed :: hearLate answer own

section Fault

variable {before after : List (Option IoError)} {error : IoError}

-- By induction on the requests, with one answer left over before each of them.
theorem hearAll_of_unread
    (hpatient : ∀ error, some error ∈ after → ReceiveMode.blocking.retries error)
    (missed : Answer) (own : List (Option Answer)) :
    (hearAll ⟨after, [missed]⟩ own).1 = hearLate missed own := by
  induction own generalizing after missed with
  | nil => rfl
  | cons own? own ih =>
    cases own? with
    | none => simp only [hearAll, hear, hearLate, ih hpatient]
    | some answer =>
      obtain ⟨after', hwait, hfewer⟩ := waitFault_of_patient hpatient
      simp only [hearAll, hear, await, List.cons_append, List.nil_append, hwait, List.head?_cons,
        List.tail_cons, hearLate]
      rw [ih fun error h => hpatient error (hfewer _ h)]

-- A failure in the wait for one answer leaves that answer over. Two receives belong to each
-- of the waits before it.
theorem hearAll_of_failure
    (hbefore : ∀ error, some error ∈ before → ReceiveMode.blocking.retries error)
    (hafter : ∀ error, some error ∈ after → ReceiveMode.blocking.retries error)
    (hfatal : ¬ReceiveMode.blocking.retries error) (missed : Answer) (rest : List (Option Answer))
    {first : List (Option Answer)}
    (hfirst : first.countP Option.isSome = before.countP Option.isNone / 2) :
    (hearAll ⟨before ++ some error :: after, []⟩ (first ++ some missed :: rest)).1 =
      first ++ none :: hearLate missed rest := by
  induction first generalizing before with
  | nil =>
    rw [List.countP_nil] at hfirst
    simp only [List.nil_append, hearAll, hear, await,
      waitFault_append_of_failure hbefore (by omega) hfatal, hearAll_of_unread hafter]
  | cons own? first ih =>
    cases own? with
    | none =>
      rw [List.countP_cons_of_neg (by simp)] at hfirst
      simp only [List.cons_append, hearAll, hear, ih hbefore hfirst]
    | some answer =>
      rw [List.countP_cons_of_pos rfl] at hfirst
      obtain ⟨before', hwait, hcount, hfewer⟩ :=
        waitFault_append_of_receives hbefore (by omega) (some error :: after)
      simp only [List.cons_append, List.nil_append, hearAll, hear, await, hwait, List.head?_cons,
        List.tail_cons]
      rw [ih (fun error h => hbefore error (hfewer _ h)) (by omega)]

end Fault

end Backlog

-- The kernel has got so far, with a backlog. It queues nothing but answers.
structure AnsweringKernel.At (kernel : AnsweringKernel) (answers : Nat → Answer)
    (standing : AnsweringKernel.Standing) (backlog : Backlog) : Prop where
  answers : kernel.answers = answers
  standing : kernel.standing = standing
  quiet : kernel.arrivals = []
  receives : kernel.receives = backlog.receives
  queue : List.Forall₂ (fun answer message => ∃ number, message = ⟨answer.frame number,
    ⟨Sender.kernelAddressLength, 0⟩⟩) backlog.unread kernel.queue

namespace Client

open AnsweringKernel

variable {kernel : AnsweringKernel} {answer : Answer} {queue : List Message} {number : UInt32}
  {receives : List (Option IoError)} {error : IoError}

theorem receive_of_fault (hquiet : kernel.arrivals = [])
    (hfault : ReceiveMode.blocking.fault kernel.receives = (some error, receives))
    (envelope : Envelope) (peek : Peek) :
    (Exchange.receive kernel envelope .blocking peek).value =
      (.error (.io error), { kernel with receives }, envelope) := by
  simp only [Exchange.receive, receiveRepeatedly_of_fault hquiet hfault peek]
  rw [if_neg (by simp)]
  rfl

-- A wait that fails leaves the answer where it is, whether it could look at it or not.
theorem awaitAck_of_fault (hquiet : kernel.arrivals = [])
    (hqueue : kernel.queue = ⟨answer.frame number, ⟨Sender.kernelAddressLength, 0⟩⟩ :: queue)
    (hfault : waitFault kernel.receives = (some error, receives)) (sequence : UInt32) :
    (awaitAck kernel sequence).value = (.error (.io error), { kernel with receives }) := by
  rcases hpeek : ReceiveMode.blocking.fault kernel.receives with ⟨_ | first, plan⟩
  · rw [waitFault, hpeek] at hfault
    have hpeeked := receiveRepeatedly_of_waiting hquiet hqueue hpeek .peekOnly
    rw [if_neg (by decide), ← hqueue] at hpeeked
    have hlooked := congrArg Traced.value (receive_of_answer Envelope.zero hpeeked)
    have htaken := @receive_of_fault { kernel with receives := plan } _ _ hquiet hfault
    exact awaitAck_of_take_error hlooked rfl (htaken ..) sequence
  · rw [waitFault, hpeek] at hfault
    cases hfault
    exact awaitAck_of_peek_error (receive_of_fault hquiet hpeek ..) sequence

-- Otherwise it takes the answer that is first, and that decides, whatever its number.
theorem awaitAck_of_waiting (hquiet : kernel.arrivals = [])
    (hqueue : kernel.queue = ⟨answer.frame number, ⟨Sender.kernelAddressLength, 0⟩⟩ :: queue)
    (hfault : waitFault kernel.receives = (none, receives)) (sequence : UInt32) :
    (awaitAck kernel sequence).value =
      (if answer.code = 0 then .ok () else .error (.kernel sequence answer.error),
        { kernel with receives, queue }) := by
  rcases hpeek : ReceiveMode.blocking.fault kernel.receives with ⟨_ | first, plan⟩
  · rw [waitFault, hpeek] at hfault
    have hpeeked := receiveRepeatedly_of_waiting hquiet hqueue hpeek .peekOnly
    rw [if_neg (by decide), ← hqueue] at hpeeked
    have htaken := @receiveRepeatedly_of_waiting { kernel with receives := plan } _ _ _ _ hquiet hqueue
      hfault .consume
    rw [awaitAck_of_received hpeeked htaken]
    split
    · exact value_compare _ _ _
    · rfl
  · rw [waitFault, hpeek] at hfault
    cases hfault

section Send

variable {messageType : UInt16} {payload : Bytes} {length : Nat} {answers : Nat → Answer}
  {standing standing' : Standing} {backlog backlog' : Backlog} {heard? : Option Answer}

theorem awaitAck_of_backlog (h : kernel.At answers standing backlog) (hunread : backlog.unread ≠ [])
    (hheard : backlog.await = (heard?, backlog')) (sequence : UInt32) :
    ∃ result kernel', (awaitAck kernel sequence).value = (result, kernel') ∧
      result.isOk = heard?.any (·.code == 0) ∧ kernel'.At answers standing backlog' := by
  obtain ⟨first, unread, hfirst⟩ := List.exists_cons_of_ne_nil hunread
  have hmessages := h.queue
  rw [hfirst] at hmessages
  obtain ⟨message, queue, ⟨number, rfl⟩, hrest, hqueue⟩ := List.forall₂_cons_left_iff.mp hmessages
  rcases hwait : waitFault backlog.receives with ⟨_ | error, receives⟩
  · simp only [Backlog.await, hwait, hfirst, List.head?_cons, List.tail_cons, Prod.mk.injEq] at hheard
    obtain ⟨rfl, rfl⟩ := hheard
    rw [← h.receives] at hwait
    refine ⟨_, _, awaitAck_of_waiting h.quiet hqueue hwait sequence, ?_, h.answers, h.standing, h.quiet,
      rfl, hrest⟩
    by_cases hcode : first.code = 0
    · simp [hcode, Except.isOk, Except.toBool]
    · simp [hcode, Except.isOk, Except.toBool]
  · simp only [Backlog.await, hwait, Prod.mk.injEq] at hheard
    obtain ⟨rfl, rfl⟩ := hheard
    rw [← h.receives] at hwait
    exact ⟨_, _, awaitAck_of_fault h.quiet hqueue hwait sequence, rfl, h.answers, h.standing, h.quiet,
      rfl, h.queue⟩

-- The answer to a request that is accepted whole joins the backlog.
theorem sendRepeatedly_of_backlog (h : kernel.At answers standing backlog) {request : Bytes} {own : Answer}
    (hsubmit : standing.submit answers (some request.length) = (some own, standing')) :
    ∃ kernel', Channel.sendRepeatedly kernel request = (.ok request.length, kernel') ∧
      kernel'.At answers standing' { backlog with unread := backlog.unread ++ [own] } := by
  obtain ⟨rfl, rfl, hquiet, hreceives, hqueue⟩ := h
  obtain ⟨rfl, hstanding, hsent⟩ := sendRepeatedly_of_submit hsubmit
  exact ⟨_, hsent, rfl, hstanding, hquiet, hreceives, List.rel_append hqueue (.cons ⟨_, rfl⟩ .nil)⟩

-- A request goes well if what it hears says so.
theorem send_of_backlog {client : Client AnsweringKernel} {own? : Option Answer}
    (h : client.channel.At answers standing backlog)
    (hsubmit : standing.submit answers (requestLength? payload.length) = (own?, standing'))
    (hhear : backlog.hear own? = (heard?, backlog')) :
    ∃ result client', (client.send messageType payload).value = (result, client') ∧
      result.isOk = heard?.any (·.code == 0) ∧ client'.channel.At answers standing' backlog' := by
  cases hlength : requestLength? payload.length with
  | none =>
    rw [hlength] at hsubmit
    cases hsubmit
    cases hhear
    exact ⟨_, _, (send_of_too_long hlength).1, rfl, h⟩
  | some length =>
    rw [hlength] at hsubmit
    cases own? with
    | none =>
      cases hhear
      rw [← h.standing, ← h.answers] at hsubmit
      obtain ⟨error, hvalue, hanswered, -, -⟩ := @send_of_refused client messageType _ _ _ hlength hsubmit
      refine ⟨_, _, hvalue, rfl, h.answers, ?_, h.quiet, h.receives, h.queue⟩
      rw [AnsweringKernel.standing, ← hanswered]
    | some own =>
      let number := client.sequence.advance.value.1
      have hframe := Envelope.length_requestBytes hlength messageType number
      rw [← hframe] at hsubmit
      obtain ⟨kernel, hsent, hjoined⟩ := sendRepeatedly_of_backlog h hsubmit
      rw [hframe] at hsent
      obtain ⟨result, kernel', hawait, hwell, hleft⟩ :=
        awaitAck_of_backlog hjoined (by simp) hhear number
      refine ⟨_, _, send_of_sent hlength hsent hawait, ?_, hleft⟩
      cases result with
      | error error => exact hwell
      | ok _ => exact hwell

end Send

end Client

end AuditCollector
