import AuditCollector.Proofs.Channel.Delivery
import AuditCollector.Proofs.Client.Send

namespace AuditCollector.Client

open AuditCollector.Frame AuditCollector.Scripted

variable {socket : Socket} {delivery : Delivery} {rest : List Inbound} {notice : Notice}
  {before after : List Delivery} {acknowledgement : Delivery}

-- A wait for an answer that comes upon another message leaves it where it is, and is over.
theorem awaitAck_of_other (hinbound : socket.inbound = delivery.inbound :: rest)
    (hother : delivery.reply.notice? = none) (sequence : UInt32) :
    (awaitAck socket sequence).value = (.ok (), socket.received .peekOnly) :=
  awaitAck_of_no_notice (Socket.receive_of_delivery hinbound ..) hother sequence

theorem awaitAck_of_ack (hinbound : socket.inbound = delivery.inbound :: rest)
    (hnotice : delivery.reply.notice? = some notice) (hack : notice.isAck = true)
    (sequence : UInt32) :
    (awaitAck socket sequence).value =
      (.ok (), (socket.received .peekOnly).received .consume) := by
  have hagain : (socket.received .peekOnly).inbound = delivery.inbound :: rest := hinbound
  have hseen : delivery.reply.notice?.isSome := by rw [hnotice, Option.isSome_some]
  rw [awaitAck_of_notice (Socket.receive_of_delivery hinbound ..) hseen
    (Socket.receive_of_delivery hagain ..) hnotice, if_pos (beq_iff_eq.mp hack)]

-- What comes first is thrown away, if there is anything.
theorem discardFollowUp_deliveries {queue : List Delivery}
    (hinbound : socket.inbound = queue.map Delivery.inbound) :
    (discardFollowUp socket).value = socket.received .consume := by
  cases queue with
  | nil =>
    rw [value_discardFollowUp, Socket.receive_of_empty hinbound]
  | cons first queue =>
    rw [List.map_cons] at hinbound
    rw [value_discardFollowUp, Socket.receive_of_delivery hinbound]

-- If the kernel gets the registration whole and the wait for its answer goes well, so does
-- the registration, and the first message of what the wait left is thrown away.
theorem setPid_of_answered {queue : List Delivery} (hsends : socket.sends = [])
    (sequence : SequenceCounter) (pid : UInt32)
    (hanswered : ∀ sent number, ∃ socket', (awaitAck { socket with sent } number).value =
      (.ok (), socket') ∧ socket'.inbound = queue.map Delivery.inbound) :
    let run := (setPid ⟨socket, sequence⟩ pid true).value
    run.1 = .ok () ∧ run.2.channel.inbound = queue.tail.map Delivery.inbound := by
  have hlength : requestLength? (registration pid).toBytes.length = some 56 := by
    rw [Status.length_toBytes]
    rfl
  let number := sequence.advance.value.1
  let request := Envelope.requestBytes 56 Envelope.setStatusType number (registration pid).toBytes
  have hframe : request.length = 56 := Envelope.length_requestBytes hlength _ _
  have hsent := Socket.sendRepeatedly_of_unplanned hsends request
  rw [hframe] at hsent
  obtain ⟨socket', hawait, hleft⟩ := hanswered (socket.sent ++ [request]) number
  have hsend := @send_of_sent Socket _ _ ⟨socket, sequence⟩ _ _ _ _ _ hlength hsent hawait
  rw [Except.map] at hsend
  rw [setPid_of_ok hsend, discardFollowUp_deliveries hleft]
  refine ⟨rfl, ?_⟩
  change socket'.inbound.tail = _
  rw [hleft, List.map_tail]

private theorem countP_le_countP_tail {α : Type} (p : α → Bool) (xs : List α) :
    xs.countP p ≤ xs.tail.countP p + 1 := by
  cases xs with
  | nil => simp
  | cons x xs =>
    rw [List.countP_cons, List.tail_cons]
    split
    · omega
    · omega

-- Without its first element a list keeps all that is asked for if that was not.
private theorem filter_tail_eq_iff {α : Type} (p : α → Bool) (xs : List α) :
    xs.tail.filter p = xs.filter p ↔ ∀ x ∈ xs.head?, p x = false := by
  cases xs with
  | nil => simp
  | cons x xs =>
    rw [List.tail_cons, List.filter_cons]
    split
    · rename_i hx
      constructor
      · intro h
        have hlength := congrArg List.length h
        rw [List.length_cons] at hlength
        omega
      · intro h
        rw [h x rfl] at hx
        cases hx
    · rename_i hx
      simpa using hx

-- A registration throws away the first message that is not the answer to it, whatever it
-- is. No event is lost exactly if that is none, and the answer itself is only taken if it
-- is in front.
theorem setPid_discards_first_other (hsends : socket.sends = [])
    (hqueue : socket.inbound = (before ++ acknowledgement :: after).map Delivery.inbound)
    (hnotice : acknowledgement.reply.notice? = some notice) (hack : notice.isAck = true)
    (hothers : ∀ message ∈ before ++ after,
      message.reply.isEvent = true ∨ message.reply.isStatus = true)
    (sequence : SequenceCounter) (pid : UInt32) :
    let run := (setPid ⟨socket, sequence⟩ pid true).value
    let queue := before ++ acknowledgement :: after
    let kept := if before = [] then after.tail else before.tail ++ acknowledgement :: after
    run.1 = .ok () ∧ run.2.channel.inbound = kept.map Delivery.inbound ∧
      queue.countP (·.reply.isStatus) ≤ kept.countP (·.reply.isStatus) + 1 ∧
      (kept.filter (·.reply.isEvent) = queue.filter (·.reply.isEvent) ↔
        ∀ first ∈ (before ++ after).head?, first.reply.isEvent = false) := by
  intro run queue kept
  cases before with
  | nil =>
    -- the wait takes the answer, and what follows it is thrown away
    rw [List.nil_append, List.map_cons] at hqueue
    obtain ⟨hok, hinbound⟩ := @setPid_of_answered socket after hsends sequence pid (by
      intro sent number
      have hfront : { socket with sent }.inbound = _ := hqueue
      refine ⟨_, awaitAck_of_ack hfront hnotice hack number, ?_⟩
      change socket.inbound.tail = _
      rw [hqueue, List.tail_cons])
    have hstatus : acknowledgement.reply.isStatus = false :=
      Reply.isStatus_of_notice? hnotice
    have hevent : acknowledgement.reply.isEvent = false := Reply.isEvent_of_notice? hnotice
    refine ⟨hok, hinbound, ?_, ?_⟩
    · have hcount : queue.countP (·.reply.isStatus) = after.countP (·.reply.isStatus) :=
        List.countP_cons_of_neg (by simp [hstatus])
      rw [hcount]
      exact countP_le_countP_tail _ after
    · have hfilter : queue.filter (·.reply.isEvent) = after.filter (·.reply.isEvent) :=
        List.filter_cons_of_neg (by simp [hevent])
      rw [hfilter]
      exact filter_tail_eq_iff _ after
  | cons first before =>
    -- the wait is over with a look at what comes first, and that is thrown away
    rw [List.cons_append, List.map_cons] at hqueue
    have hother : first.reply.notice? = none := by
      rcases hothers first (by simp) with hevent | hstatus
      · exact Reply.notice?_of_isEvent hevent
      · exact Reply.notice?_of_isStatus hstatus
    obtain ⟨hok, hinbound⟩ := @setPid_of_answered socket
      (first :: (before ++ acknowledgement :: after)) hsends sequence pid (by
      intro sent number
      have hfront : { socket with sent }.inbound = _ := hqueue
      exact ⟨_, awaitAck_of_other hfront hother number, hfront⟩)
    exact ⟨hok, hinbound, countP_le_countP_tail _ queue, filter_tail_eq_iff _ queue⟩

-- The answer comes after a status, which is thrown away, and before an event, which is kept.
theorem setPid_discards_first_other_of_status :
    let status := Delivery.ofPayload Envelope.statusType 0 [] (.status []) rfl (by decide)
    let event := Delivery.ofPayload 1300 0 [0x61] (.message [0x61]) rfl (by decide)
    let acknowledgement := Delivery.ofPayload Envelope.errorType 1 [0, 0, 0, 0]
      (.notice ⟨0, none⟩) rfl (by decide)
    let socket : Socket := { inbound := [status, acknowledgement, event].map Delivery.inbound }
    let run := (setPid ⟨socket, {}⟩ 4242 true).value
    run.1 = .ok () ∧ run.2.channel.inbound = [acknowledgement, event].map Delivery.inbound := by
  intro status event acknowledgement socket run
  obtain ⟨hok, hinbound, -, -⟩ := @setPid_discards_first_other socket ⟨0, none⟩ [status] [event]
    acknowledgement rfl rfl rfl rfl (by
      intro message hmessage
      have hmessage : message = status ∨ message = event := by simpa using hmessage
      rcases hmessage with rfl | rfl
      · exact .inr rfl
      · exact .inl rfl) {} 4242
  exact ⟨hok, hinbound⟩

-- An event that comes after the answer to the registration is lost.
theorem setPid_loses_event_after_answer :
    let event := Delivery.ofPayload 1300 0 [0x61] (.message [0x61]) rfl (by decide)
    let acknowledgement := Delivery.ofPayload Envelope.errorType 1 [0, 0, 0, 0]
      (.notice ⟨0, none⟩) rfl (by decide)
    let socket : Socket := { inbound := [acknowledgement, event].map Delivery.inbound }
    let run := (setPid ⟨socket, {}⟩ 4242 true).value
    event.reply.isEvent = true ∧ run.1 = .ok () ∧ run.2.channel.inbound = [] := by
  intro event acknowledgement socket run
  obtain ⟨hok, hinbound⟩ := @setPid_of_answered socket [event] rfl {} 4242 (by
    intro sent number
    have hfront : { socket with sent }.inbound = acknowledgement.inbound :: [event.inbound] := rfl
    exact ⟨_, awaitAck_of_ack hfront rfl rfl number, rfl⟩)
  exact ⟨rfl, hok, hinbound⟩

end AuditCollector.Client
