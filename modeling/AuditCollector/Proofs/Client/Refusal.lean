import AuditCollector.Proofs.Client.Numbering
import AuditCollector.Proofs.Client.Waiting

namespace AuditCollector

open AuditCollector.Frame

namespace Datagram

variable {datagram : Datagram} {notice : Notice}

-- The verdict in a message, if the kernel says one.
def notice? (datagram : Datagram) : Option Notice :=
  if datagram.sender.IsKernel then datagram.decoded.toOption.bind Reply.notice? else none

theorem exists_reply_of_notice? (h : datagram.notice? = some notice) :
    datagram.sender.IsKernel ∧
      ∃ reply, datagram.decoded = .ok reply ∧ reply.notice? = some notice := by
  unfold notice? at h
  split at h
  · rename_i hkernel
    refine ⟨hkernel, ?_⟩
    obtain ⟨reply, hreply, hnotice⟩ := Option.bind_eq_some_iff.mp h
    cases hdecoded : datagram.decoded with
    | error error =>
      rw [hdecoded] at hreply
      cases hreply
    | ok found =>
      rw [hdecoded] at hreply
      cases hreply
      exact ⟨reply, rfl, hnotice⟩
  · cases h

-- The code of a verdict is the signed word behind the header.
theorem code_of_notice? (hbacked : datagram.IsBacked) (h : datagram.notice? = some notice) :
    notice.code = (datagram.bytes.uint32At 16).toInt32 := by
  obtain ⟨-, reply, hdecoded, hnotice⟩ := exists_reply_of_notice? h
  have hread : reply.ReadFrom datagram.bytes := hbacked.readFrom hdecoded
  have hbody := Reply.notice?_eq_some_iff.mp hnotice
  have htype : reply.messageType = 2 := (Body.exists_notice_iff hread.body).mp ⟨notice, hbody⟩
  have herror : (2 : UInt16) = Envelope.errorType := rfl
  have hparsed := hread.body
  rw [htype, hbody, Body.parse?, if_pos herror, Option.map_eq_some_iff] at hparsed
  obtain ⟨parsed, hparsed, hsame⟩ := hparsed
  obtain rfl := Body.notice.inj hsame
  unfold Notice.parse? at hparsed
  split at hparsed
  · cases hparsed
  · rename_i hlong
    cases hparsed
    rw [hread.payload, List.length_drop, List.length_take] at hlong
    have hclaimed : headerLength + 0 + 4 ≤ reply.header.length.toNat := by omega
    have hword := @Bytes.uint32At_slice datagram.bytes headerLength _ 0 hclaimed
    rw [hread.payload]
    exact congrArg UInt32.toInt32 hword

end Datagram

theorem Exchange.accept_of_notice {datagram : Datagram} {notice : Notice}
    (hbacked : datagram.IsBacked) (h : datagram.notice? = some notice) (envelope : Envelope) :
    ∃ reply, (accept (envelope.overlay datagram.bytes) datagram).value = .ok (some reply) ∧
      reply.notice? = some notice := by
  obtain ⟨hkernel, reply, hdecoded, hnotice⟩ := Datagram.exists_reply_of_notice? h
  have hsame := (Envelope.decode_overlay_eq_ok envelope hbacked hdecoded).1
  refine ⟨reply, ?_, hnotice⟩
  rw [accept_of_kernel hkernel, hsame]

namespace ChannelCall

-- The message that a wait for an answer takes off the channel.
def taken? : ChannelCall → Option Datagram
  | .receive .blocking .consume (.ok datagram) => some datagram
  | _ => none

-- That a result tells of each refusal that was taken in some calls.
def Tells {α : Type} (calls : List ChannelCall) (sequence : UInt32)
    (result : Except ExchangeError α) : Prop :=
  ∀ taken ∈ calls.filterMap taken?, taken.IsBacked →
    ∀ notice, taken.notice? = some notice → notice.code ≠ 0 →
      result = .error (.kernel sequence (.os notice.errno))

theorem tells_of_nothing {α : Type} {calls : List ChannelCall} (h : calls.filterMap taken? = [])
    (sequence : UInt32) (result : Except ExchangeError α) : Tells calls sequence result := by
  intro taken hmem
  rw [h] at hmem
  cases hmem

end ChannelCall

namespace Overheard.Receives

open ChannelCall

variable {mode : ReceiveMode} {peek : Peek} {outcome : Except IoError Datagram}
  {calls : List ChannelCall} {taken : Datagram}

-- A repeated receive takes what its last call does, if it is one that takes and waits.
theorem eq_of_mem (h : Receives mode peek outcome calls) (hmem : taken ∈ calls.filterMap taken?) :
    mode = .blocking ∧ peek = .consume ∧ outcome = .ok taken := by
  induction h with
  | decided _ =>
    obtain ⟨call, hcall, htaken⟩ := List.mem_filterMap.mp hmem
    rw [List.mem_singleton.mp hcall] at htaken
    unfold taken? at htaken
    split at htaken
    · rename_i hsame
      cases hsame
      cases htaken
      exact ⟨rfl, rfl, rfl⟩
    · cases htaken
  | @again error calls _ _ ih =>
    have hfailed : taken? (.receive mode peek (.error error)) = none := by
      cases mode <;> cases peek <;> rfl
    rw [List.filterMap_cons_none hfailed] at hmem
    exact ih hmem

theorem taken_of_peek (h : Receives mode .peekOnly outcome calls) : calls.filterMap taken? = [] :=
  List.eq_nil_iff_forall_not_mem.mpr fun _ hmem => Peek.noConfusion (h.eq_of_mem hmem).2.1

theorem taken_of_nonBlocking (h : Receives .nonBlocking peek outcome calls) :
    calls.filterMap taken? = [] :=
  List.eq_nil_iff_forall_not_mem.mpr fun _ hmem => ReceiveMode.noConfusion (h.eq_of_mem hmem).1

end Overheard.Receives

namespace Client

open ChannelCall

variable {σ : Type} [Channel σ]

-- A wait that is shown a verdict ends with what it takes then.
theorem channel_awaitAck_of_seen {s s' : σ} {seen : Reply} {envelope : Envelope}
    (hpeek : (Exchange.receive s Envelope.zero .blocking .peekOnly).value = (.ok (some seen), s', envelope))
    (hseen : seen.notice?.isSome) (sequence : UInt32) :
    (awaitAck s sequence).value.2 = (Exchange.receive s' envelope .blocking .consume).value.2.1 := by
  have hother : seen.notice?.isNone = false := by rw [← Option.not_isSome, hseen, Bool.not_true]
  simp only [awaitAck, Traced.value_bind, hpeek, hother, Bool.false_eq_true, if_false]
  rcases (Exchange.receive s' envelope .blocking .consume).value with ⟨error | _ | reply, s'', envelope'⟩
  · rfl
  · simp only [value_compare]
  · simp only
    split
    · simp only [value_compare]
    · split
      · simp only [value_compare]
      · rfl

-- A wait tells if what it takes refuses the request.
theorem awaitAck_tells (s : σ) (earlier : List ChannelCall) (sequence : UInt32) :
    let run := (awaitAck (⟨s, earlier⟩ : Overheard σ) sequence).value
    ∃ calls, run.2.calls = earlier ++ calls ∧ Tells calls sequence run.1 := by
  intro run
  rcases hpeek : Channel.receiveRepeatedly s capacity .blocking .peekOnly with ⟨peeked, s'⟩
  obtain ⟨peeks, hpeeks, hvalue⟩ := Exchange.receive_overheard earlier hpeek Envelope.zero
  let envelope := (Exchange.receive s Envelope.zero .blocking .peekOnly).value.2.2
  -- a wait that is over here has taken nothing
  have hover : run.2 = ⟨s', earlier ++ peeks⟩ →
      ∃ calls, run.2.calls = earlier ++ calls ∧ Tells calls sequence run.1 := by
    intro hrun
    exact ⟨peeks, congrArg Overheard.calls hrun, tells_of_nothing hpeeks.taken_of_peek _ _⟩
  have hchannel : (Exchange.receive s Envelope.zero .blocking .peekOnly).value.2.1 = s' := by
    rw [Exchange.channel_receive, hpeek]
  rw [hchannel] at hvalue
  rcases hresult : (Exchange.receive s Envelope.zero .blocking .peekOnly).value.1
    with error | _ | seen
  · rw [hresult] at hvalue
    exact hover (congrArg Prod.snd (awaitAck_of_peek_error hvalue sequence))
  · rw [hresult] at hvalue
    apply hover
    simp only [run, awaitAck, Traced.value_bind, hvalue, Traced.value_pure]
  rw [hresult] at hvalue
  by_cases hseen : seen.notice?.isSome
  · rcases htake : Channel.receiveRepeatedly s' capacity .blocking .consume with ⟨outcome, s''⟩
    obtain ⟨takes, htakes, htaken⟩ := Exchange.receive_overheard (earlier ++ peeks) htake envelope
    refine ⟨peeks ++ takes, ?_, ?_⟩
    · rw [channel_awaitAck_of_seen hvalue hseen, htaken, List.append_assoc]
    · intro taken hmem hbacked notice hnotice hcode
      rw [List.filterMap_append, hpeeks.taken_of_peek, List.nil_append] at hmem
      obtain ⟨-, -, rfl⟩ := htakes.eq_of_mem hmem
      obtain ⟨reply, haccept, hreply⟩ := Exchange.accept_of_notice hbacked hnotice envelope
      rw [Exchange.receive_of_ok htake, haccept] at htaken
      have hrun := awaitAck_of_notice hvalue hseen htaken hreply sequence
      rw [if_neg hcode] at hrun
      exact congrArg Prod.fst hrun
  · have hnone : seen.notice? = none := Option.not_isSome_iff_eq_none.mp hseen
    exact hover (congrArg Prod.snd (awaitAck_of_no_notice hvalue hnone sequence))

-- So does a request that fits. If it is not sent whole, then nothing is taken.
theorem send_tells (s : σ) (earlier : List ChannelCall) (counter : SequenceCounter)
    {request : Request} (hfits : request.Fits) :
    let run := (send (⟨⟨s, earlier⟩, counter⟩ : Client (Overheard σ)) request.messageType
      request.payload).value
    ∃ calls, run.2.channel.calls = earlier ++ calls ∧ Tells calls counter.advance.value.1 run.1 := by
  intro run
  let length := align (headerLength + request.payload.length)
  let number := counter.advance.value.1
  let frame := Envelope.requestBytes length request.messageType number request.payload
  have hlength : requestLength? request.payload.length = some length :=
    requestLength?_eq_some_iff.mpr ⟨hfits, rfl⟩
  rcases hrepeated : Channel.sendRepeatedly s frame with ⟨outcome, s'⟩
  obtain ⟨-, again, hheard⟩ := Overheard.sendRepeatedly_eq earlier hrepeated
  let sends := List.replicate again (ChannelCall.send frame (.error .interrupted)) ++
    [.send frame outcome]
  have hsends : sends.filterMap taken? = [] := by
    rw [List.filterMap_append, List.filterMap_replicate_of_none rfl]
    rfl
  rw [List.append_assoc] at hheard
  obtain ⟨result, hsent, hconcludes⟩ := Exchange.send_concludes hlength hheard
  cases hconcludes with
  | whole =>
    rcases hawait : (awaitAck (⟨s', earlier ++ sends⟩ : Overheard σ) number).value
      with ⟨answered, heard⟩
    obtain ⟨waits, hwaits, htells⟩ := awaitAck_tells s' (earlier ++ sends) number
    rw [hawait] at hwaits htells
    have hrun : run = (answered.map fun _ => number, ⟨heard, counter.advance.value.2⟩) :=
      send_of_sent hlength hheard hawait
    rw [hrun]
    refine ⟨sends ++ waits, hwaits.trans (List.append_assoc ..), ?_⟩
    intro taken hmem hbacked notice hnotice hcode
    rw [List.filterMap_append, hsends, List.nil_append] at hmem
    have hrefused : answered = _ := htells taken hmem hbacked notice hnotice hcode
    rw [hrefused]
    rfl
  | short | failed =>
    refine ⟨sends, ?_, tells_of_nothing hsends _ _⟩
    simp only [run, send, Traced.value_bind, hsent, Traced.value_pure]
    rfl

-- And so does a registration: the look for what follows it waits for nothing.
theorem setPid_tells (s : σ) (earlier : List ChannelCall) (counter : SequenceCounter) (pid : UInt32) :
    let run := ((⟨⟨s, earlier⟩, counter⟩ : Client (Overheard σ)).setPid pid true).value
    ∃ calls, run.2.channel.calls = earlier ++ calls ∧ Tells calls counter.advance.value.1 run.1 := by
  obtain ⟨calls, hcalls, htells⟩ := send_tells s earlier counter (registrationRequest_fits pid)
  rcases hsent : (send (⟨⟨s, earlier⟩, counter⟩ : Client (Overheard σ)) Envelope.setStatusType
    (registration pid).toBytes).value with ⟨error | number, ⟨s', calls'⟩, counter'⟩
  · rw [registrationRequest_eq, hsent] at hcalls htells
    rw [setPid_of_error hsent]
    refine ⟨calls, hcalls, fun taken hmem hbacked notice hnotice hcode => ?_⟩
    cases htells taken hmem hbacked notice hnotice hcode
    rfl
  · rw [registrationRequest_eq, hsent] at hcalls htells
    obtain rfl : calls' = earlier ++ calls := hcalls
    rcases hlook : Channel.receiveRepeatedly s' capacity .nonBlocking .consume with ⟨outcome, s''⟩
    obtain ⟨looks, hlooks, hvalue⟩ :=
      Exchange.receive_overheard (earlier ++ calls) hlook Envelope.zero
    rw [setPid_of_ok hsent]
    refine ⟨calls ++ looks, ?_, fun taken hmem hbacked notice hnotice hcode => ?_⟩
    · rw [value_discardFollowUp, hvalue, List.append_assoc]
    · rw [List.filterMap_append, hlooks.taken_of_nonBlocking, List.append_nil] at hmem
      cases htells taken hmem hbacked notice hnotice hcode

end Client

end AuditCollector
