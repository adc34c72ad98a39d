import AuditCollector.Disk.Faults
import AuditCollector.EventLoop
import AuditCollector.Proofs.Channel.Overheard
import AuditCollector.Proofs.Frame.Received
import AuditCollector.Proofs.Log.Commands
import AuditCollector.Scripted.Socket

namespace AuditCollector

open AuditCollector.Frame AuditCollector.Scripted

-- What a message brings for the log: the bytes behind its header, as far as the header
-- claims them, if the kernel sent it and it is a frame at all. That is judged in an
-- envelope of its own.
def Datagram.record? (datagram : Datagram) : Option Bytes :=
  if datagram.sender = ⟨Sender.kernelAddressLength, 0⟩ then
    match (Envelope.zero.overlay datagram.bytes).decode datagram.length with
    | .ok reply => some ((datagram.bytes.take reply.header.length.toNat).drop headerLength)
    | .error _ => none
  else none

-- No more bytes are reported than have reached the buffer.
def Datagram.IsBacked (datagram : Datagram) : Prop := datagram.length ≤ datagram.bytes.length

instance (datagram : Datagram) : Decidable datagram.IsBacked :=
  inferInstanceAs (Decidable (_ ≤ _))

namespace ChannelCall

-- The records that came in with some calls, in order.
def records (calls : List ChannelCall) : List Bytes :=
  (calls.filterMap received?).filterMap Datagram.record?

-- What a turn does on the channel. It waits, while no stop is requested, and only if the
-- wait finds something does it receive, once.
inductive IsTurn : List ChannelCall → Prop where
  | skip {result} (hresult : result ≠ .ok true) : IsTurn [.wait false result]
  | dispatch {result receives}
    (hreceives : Overheard.Receives .blocking .consume result receives) :
    IsTurn (.wait false (.ok true) :: receives)

end ChannelCall

namespace Exchange

variable {σ : Type} [Channel σ] {datagram : Datagram} {s s' : σ} {mode : ReceiveMode} {peek : Peek}

-- A message is accepted if it has a record, whatever envelope it is received into.
theorem accept_cases (envelope : Envelope) (hbacked : datagram.IsBacked) :
    (∃ reply, (accept (envelope.overlay datagram.bytes) datagram).value = .ok (some reply) ∧
      datagram.record? = some reply.payload) ∨
    (∃ error, (accept (envelope.overlay datagram.bytes) datagram).value = .error error ∧
      datagram.record? = none) := by
  unfold accept Datagram.record?
  by_cases hsender : datagram.sender = ⟨Sender.kernelAddressLength, 0⟩
  · rw [if_pos hsender]
    simp only [hsender, ne_eq, not_true_eq_false, if_false]
    cases hdecode : (envelope.overlay datagram.bytes).decode datagram.length with
    | ok reply =>
      obtain ⟨hzero, hpayload⟩ := Envelope.decode_overlay_eq_ok .zero hbacked hdecode
      exact .inl ⟨reply, rfl, by rw [hzero, hpayload]⟩
    | error error =>
      cases hzero : (Envelope.zero.overlay datagram.bytes).decode datagram.length with
      | ok reply =>
        have hback := (Envelope.decode_overlay_eq_ok envelope hbacked hzero).1
        rw [hdecode] at hback
        cases hback
      | error error' => exact .inr ⟨_, rfl, rfl⟩
  · rw [if_neg hsender]
    by_cases hlength : datagram.sender.addressLength = Sender.kernelAddressLength
    · have hpid : datagram.sender.pid ≠ 0 := fun hpid => hsender (by rw [← hlength, ← hpid])
      rw [if_neg (not_not_intro hlength), if_pos hpid]
      exact .inr ⟨_, rfl, rfl⟩
    · rw [if_pos hlength]
      exact .inr ⟨_, rfl, rfl⟩

-- Overheard or not, a receive gives the same.
theorem receive_overheard {result : Except IoError Datagram} (earlier : List ChannelCall)
    (h : Channel.receiveRepeatedly s capacity mode peek = (result, s')) (envelope : Envelope) :
    ∃ calls, Overheard.Receives mode peek result calls ∧
      (receive (⟨s, earlier⟩ : Overheard σ) envelope mode peek).value =
        ((receive s envelope mode peek).value.1,
          ⟨(receive s envelope mode peek).value.2.1, earlier ++ calls⟩,
          (receive s envelope mode peek).value.2.2) := by
  obtain ⟨calls, hreceives, hheard⟩ := Overheard.receiveRepeatedly_eq earlier h
  refine ⟨calls, hreceives, ?_⟩
  cases result with
  | ok datagram => simp only [receive, hheard, h, Traced.value_bind, Traced.value_pure]
  | error error =>
    simp only [receive, hheard, h]
    split
    · rfl
    · rfl

end Exchange

namespace EventLoop

variable {σ φ : Type}

-- The same loop, with its channel overheard.
def overhear (loop : EventLoop σ φ) (earlier : List ChannelCall) : EventLoop (Overheard σ) φ :=
  { loop with client := { loop.client with channel := ⟨loop.client.channel, earlier⟩ } }

variable [FileSystem φ]

-- The second loop has the log of the first one after the records are appended, which goes
-- well for so many of them.
def Appends (loop : EventLoop σ φ) (records : List Bytes) (loop' : EventLoop σ φ)
    (recorded : Nat) : Prop :=
  ∃ results, (loop.log.performAll loop.files (records.map .append)).value =
      (results, loop'.log, loop'.files) ∧
    recorded = results.countP Except.isOk

theorem Appends.trans {loop loop' loop'' : EventLoop σ φ} {records records' : List Bytes}
    {recorded recorded' : Nat} (h : loop.Appends records loop' recorded)
    (h' : loop'.Appends records' loop'' recorded') :
    loop.Appends (records ++ records') loop'' (recorded + recorded') := by
  obtain ⟨results, hperform, rfl⟩ := h
  obtain ⟨results', hperform', rfl⟩ := h'
  refine ⟨results ++ results', ?_, List.countP_append.symm⟩
  rw [List.map_append, Log.performAll_append, hperform]
  simp only [hperform']

variable [Channel σ]

section Dispatch

variable {loop : EventLoop σ φ} {s : σ} {datagram : Datagram} {record : Bytes} {error : IoError}

theorem dispatch_of_error
    (h : Channel.receiveRepeatedly loop.client.channel capacity .blocking .consume =
      (.error error, s)) :
    loop.dispatch.value =
      (.skipped, { loop with client := { loop.client with channel := s } }) := by
  simp [dispatch, Exchange.receive, h]

-- A message without a record leaves nothing but its bytes in the envelope.
theorem dispatch_of_no_record
    (h : Channel.receiveRepeatedly loop.client.channel capacity .blocking .consume =
      (.ok datagram, s))
    (hbacked : datagram.IsBacked) (hrecord : datagram.record? = none) :
    loop.dispatch.value = (.skipped, { loop with
      client := { loop.client with channel := s }
      envelope := loop.envelope.overlay datagram.bytes }) := by
  rcases Exchange.accept_cases loop.envelope hbacked with ⟨reply, -, hsome⟩ | ⟨error, haccept, -⟩
  · rw [hrecord] at hsome
    cases hsome
  · simp [dispatch, Exchange.receive, h, haccept]

theorem dispatch_of_record
    (h : Channel.receiveRepeatedly loop.client.channel capacity .blocking .consume =
      (.ok datagram, s))
    (hbacked : datagram.IsBacked) (hrecord : datagram.record? = some record) :
    loop.dispatch.value =
      let appended := (loop.log.append loop.files record).value
      (if appended.1.isOk then .recorded else .skipped, { loop with
        client := { loop.client with channel := s }
        envelope := loop.envelope.overlay datagram.bytes
        log := appended.2.1
        files := appended.2.2 }) := by
  rcases Exchange.accept_cases loop.envelope hbacked with ⟨reply, haccept, hsome⟩ | ⟨error, -, hnone⟩
  · obtain rfl : record = reply.payload := Option.some.inj (hrecord.symm.trans hsome)
    simp only [dispatch, Exchange.receive, h, haccept, Traced.value_bind, Traced.value_pure]
    rcases (loop.log.append loop.files reply.payload).value with ⟨_ | _, log, files⟩
    · rfl
    · rfl
  · rw [hrecord] at hnone
    cases hnone

theorem dispatch_overhear (loop : EventLoop σ φ) (earlier : List ChannelCall) :
    ∃ calls, Overheard.Receives .blocking .consume
        (Channel.receiveRepeatedly loop.client.channel capacity .blocking .consume).1 calls ∧
      (loop.overhear earlier).dispatch.value =
        (loop.dispatch.value.1, loop.dispatch.value.2.overhear (earlier ++ calls)) := by
  obtain ⟨calls, hreceives, hheard⟩ := Exchange.receive_overheard earlier
    (Prod.ext rfl rfl : Channel.receiveRepeatedly loop.client.channel _ _ _ = (_, _)) loop.envelope
  refine ⟨calls, hreceives, ?_⟩
  simp only [dispatch, Traced.value_bind, overhear, hheard]
  rcases (Exchange.receive loop.client.channel loop.envelope .blocking .consume).value
    with ⟨error | _ | reply, s, envelope⟩
  · rfl
  · rfl
  · simp only [Traced.value_bind]
    rcases (loop.log.append loop.files reply.payload).value with ⟨_ | _, log, files⟩
    · rfl
    · rfl

-- A dispatch appends the record that it received, if there is one.
theorem dispatch_appends {calls : List ChannelCall}
    (hreceives : Overheard.Receives .blocking .consume
      (Channel.receiveRepeatedly loop.client.channel capacity .blocking .consume).1 calls)
    (hbacked : ∀ datagram ∈ calls.filterMap ChannelCall.received?, datagram.IsBacked) :
    loop.Appends (ChannelCall.records calls) loop.dispatch.value.2
      (if loop.dispatch.value.1 = .recorded then 1 else 0) := by
  rcases h : Channel.receiveRepeatedly loop.client.channel capacity .blocking .consume
    with ⟨_ | datagram, s⟩
  · rw [h] at hreceives
    rw [ChannelCall.records, hreceives.received_of_error, dispatch_of_error h]
    exact ⟨[], rfl, rfl⟩
  · rw [h] at hreceives
    rw [hreceives.received_of_ok] at hbacked
    rw [ChannelCall.records, hreceives.received_of_ok]
    cases hrecord : datagram.record? with
    | none =>
      rw [dispatch_of_no_record h (hbacked _ (by simp)) hrecord]
      refine ⟨[], ?_, rfl⟩
      simp [hrecord]
    | some record =>
      rw [dispatch_of_record h (hbacked _ (by simp)) hrecord]
      refine ⟨[(loop.log.append loop.files record).value.1], ?_, ?_⟩
      · simp [hrecord, Log.performAll, Log.perform]
      · cases hok : (loop.log.append loop.files record).value.1.isOk
        · simp [hok]
        · simp [hok]

end Dispatch

section Turn

variable {loop : EventLoop σ φ} {s : σ}

-- What comes of a wait that finds nothing.
def unready : Except IoError Bool → Turn
  | .ok _ => .skipped
  | .error error => if error = .interrupted then .interrupted else .skipped

theorem unready_ne_recorded (result : Except IoError Bool) : unready result ≠ .recorded := by
  unfold unready
  split
  · simp
  · split
    · simp
    · simp

theorem turn_of_not_ready {result : Except IoError Bool}
    (h : Channel.waitReadable loop.client.channel = (result, s)) (hresult : result ≠ .ok true) :
    loop.turn.value = (unready result, { loop with
      client := { loop.client with channel := s }
      activity := .idle }) := by
  rcases result with error | _ | _
  · simp only [turn, h, unready]
    split
    · rfl
    · rfl
  · simp only [turn, h, unready]
    rfl
  · exact absurd rfl hresult

theorem turn_of_ready (h : Channel.waitReadable loop.client.channel = (.ok true, s)) :
    loop.turn.value =
      let dispatched := { loop with
        client := { loop.client with channel := s }
        activity := .dispatching }.dispatch.value
      (dispatched.1, { dispatched.2 with activity := .idle }) := by
  simp only [turn, h]
  rfl

-- Overheard or not, a turn gives the same.
theorem turn_overhear (earlier : List ChannelCall) (hstop : loop.stopRequested = false) :
    ∃ calls, ChannelCall.IsTurn calls ∧
      (loop.overhear earlier).turn.value =
        (loop.turn.value.1, loop.turn.value.2.overhear (earlier ++ calls)) ∧
      ((∀ datagram ∈ calls.filterMap ChannelCall.received?, datagram.IsBacked) →
        loop.Appends (ChannelCall.records calls) loop.turn.value.2
          (if loop.turn.value.1 = .recorded then 1 else 0)) := by
  rcases hwait : Channel.waitReadable loop.client.channel with ⟨result, s⟩
  have hheard : Channel.waitReadable (loop.overhear earlier).client.channel =
      (result, ⟨s, earlier ++ [.wait false result]⟩) := by
    rw [Overheard.waitReadable_eq hwait, ← hstop]
    rfl
  by_cases hready : result = .ok true
  · subst hready
    rw [turn_of_ready hheard, turn_of_ready hwait]
    generalize hloop : ({ loop with
        client := { loop.client with channel := s }
        activity := .dispatching } : EventLoop σ φ) = loop'
    obtain ⟨receives, hreceives, hdispatch⟩ :=
      loop'.dispatch_overhear (earlier ++ [.wait false (.ok true)])
    refine ⟨.wait false (.ok true) :: receives, .dispatch hreceives, ?_, ?_⟩
    · have hsame : ({ loop.overhear earlier with
          client := { (loop.overhear earlier).client with
            channel := ⟨s, earlier ++ [.wait false (.ok true)]⟩ }
          activity := .dispatching } : EventLoop (Overheard σ) φ) =
          loop'.overhear (earlier ++ [.wait false (.ok true)]) := by
        subst hloop
        rfl
      rw [hsame, hdispatch, List.append_assoc]
      rfl
    · intro hbacked
      have := dispatch_appends hreceives hbacked
      subst hloop
      exact this
  · rw [turn_of_not_ready hheard hready, turn_of_not_ready hwait hready]
    refine ⟨_, .skip hready, rfl, fun _ => ⟨[], rfl, ?_⟩⟩
    rw [if_neg (unready_ne_recorded result)]
    rfl

end Turn

theorem takeTurns_of_stop {loop : EventLoop σ φ} (h : loop.stopRequested = true) :
    loop.takeTurns.value = (0, loop) := by
  rw [takeTurns, if_pos h]
  rfl

theorem takeTurns_of_go {loop : EventLoop σ φ} (h : loop.stopRequested = false) :
    loop.takeTurns.value =
      ((if loop.turn.value.1 = .recorded then 1 else 0) + loop.turn.value.2.takeTurns.value.1,
        loop.turn.value.2.takeTurns.value.2) := by
  rw [takeTurns, if_neg (by simp [h])]

-- By induction on the turns. Every call belongs to one of them, and the log at the end has
-- what each of them appended.
theorem takeTurns_overhear (loop : EventLoop σ φ) (earlier : List ChannelCall) :
    ∃ turns : List (List ChannelCall), (∀ calls ∈ turns, ChannelCall.IsTurn calls) ∧
      (loop.overhear earlier).takeTurns.value =
        (loop.takeTurns.value.1, loop.takeTurns.value.2.overhear (earlier ++ turns.flatten)) ∧
      loop.takeTurns.value.2.stopRequested = true ∧
      ((∀ datagram ∈ turns.flatten.filterMap ChannelCall.received?, datagram.IsBacked) →
        loop.Appends (ChannelCall.records turns.flatten) loop.takeTurns.value.2
          loop.takeTurns.value.1) := by
  fun_induction takeTurns loop generalizing earlier with
  | case1 loop hstop =>
    have hstop' : (loop.overhear earlier).stopRequested = true := hstop
    refine ⟨[], by simp, ?_, hstop, fun _ => ⟨[], rfl, rfl⟩⟩
    rw [takeTurns_of_stop hstop', List.flatten_nil, List.append_nil]
    rfl
  | case2 loop hstop first rest ih =>
    have hgo : loop.stopRequested = false := by simpa using hstop
    have hgo' : (loop.overhear earlier).stopRequested = false := hgo
    obtain ⟨calls, hturn, hfirst, happends⟩ := turn_overhear earlier hgo
    obtain ⟨turns, hturns, hrest, hstopped, hmore⟩ := ih (earlier ++ calls)
    refine ⟨calls :: turns, ?_, ?_, hstopped, ?_⟩
    · intro calls' hcalls
      rcases List.mem_cons.mp hcalls with rfl | hcalls
      · exact hturn
      · exact hturns calls' hcalls
    · rw [takeTurns_of_go hgo', hfirst, hrest, List.flatten_cons,
        List.append_assoc]
    · intro hbacked
      rw [List.flatten_cons, List.filterMap_append] at hbacked
      rw [List.flatten_cons, ChannelCall.records, List.filterMap_append, List.filterMap_append]
      exact (happends fun datagram h => hbacked datagram (List.mem_append_left _ h)).trans
        (hmore fun datagram h => hbacked datagram (List.mem_append_right _ h))

-- The log gets the records of all messages that are received, in order and each one once,
-- and nothing else, whatever fails and whatever was in the envelope at first. The loop
-- counts those that went well, and ends only because a stop is requested.
theorem run_appends_records (loop : EventLoop σ φ)
    (hbacked : ∀ datagram ∈ (loop.overhear []).run.value.2.client.channel.calls.filterMap
      ChannelCall.received?, datagram.IsBacked) :
    let calls := (loop.overhear []).run.value.2.client.channel.calls
    (loop.overhear []).run.value = (loop.run.value.1, loop.run.value.2.overhear calls) ∧
      (∃ turns : List (List ChannelCall), calls = turns.flatten ∧
        ∀ turn ∈ turns, ChannelCall.IsTurn turn) ∧
      loop.run.value.2.stopRequested = true ∧
      ∃ results, (loop.log.performAll loop.files ((ChannelCall.records calls).map .append)).value =
          (results, loop.run.value.2.log, loop.run.value.2.files) ∧
        loop.run.value.1 = results.countP Except.isOk := by
  obtain ⟨turns, hturns, htaken, hstopped, happends⟩ := loop.takeTurns_overhear []
  have hrun : (loop.overhear []).run.value =
      (loop.run.value.1, loop.run.value.2.overhear turns.flatten) := by
    simp only [run, Traced.value_bind, Traced.value_pure, htaken]
    rfl
  rw [hrun] at hbacked ⊢
  exact ⟨rfl, ⟨turns, rfl, hturns⟩, hstopped, happends hbacked⟩

-- A forged message, and then a shorter one of the kernel after an interruption.
theorem run_appends_records_after_forgery :
    let inbound : List Inbound := [
      .message [21, 0, 0, 0, 20, 5, 0, 0, 0, 0, 0, 0, 0, 0, 0, 0, 65, 66, 67, 68, 69] ⟨12, 7⟩ none
        false,
      .failure .interrupted,
      .message [18, 0, 0, 0, 20, 5, 0, 0, 0, 0, 0, 0, 0, 0, 0, 0, 70, 71, 72] ⟨12, 0⟩ none false]
    ∃ log files, (Log.start ({ disk := .empty } : FaultyDisk) "log" "old" 100).value =
        (.ok log, files) ∧
      let loop : EventLoop Socket FaultyDisk := { client := { channel := { inbound } }, log, files }
      let calls := (loop.overhear []).run.value.2.client.channel.calls
      ChannelCall.records calls = [[70, 71]] ∧ loop.run.value.1 = 1 ∧
        ∃ results, (loop.log.performAll loop.files
            ((ChannelCall.records calls).map .append)).value =
          (results, loop.run.value.2.log, loop.run.value.2.files) ∧
        loop.run.value.1 = results.countP Except.isOk := by
  refine ⟨_, _, rfl, ?_⟩
  intro loop calls
  have hrun : (∀ datagram ∈ calls.filterMap ChannelCall.received?, datagram.IsBacked) ∧
      ChannelCall.records calls = [[70, 71]] ∧ loop.run.value.1 = 1 := by decide +kernel
  exact ⟨hrun.2.1, hrun.2.2, (run_appends_records loop hrun.1).2.2.2⟩

end EventLoop

end AuditCollector
