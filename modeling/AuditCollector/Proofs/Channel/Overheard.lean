import AuditCollector.Exchange.Basic

namespace AuditCollector

-- A call on a channel and what came of it. For a wait, also whether a stop had been
-- requested when it was made.
inductive ChannelCall where
  | send (frame : Bytes) (result : Except IoError Nat)
  | receive (mode : ReceiveMode) (peek : Peek) (result : Except IoError Datagram)
  | wait (stop : Bool) (result : Except IoError Bool)
  | close

def ChannelCall.received? : ChannelCall → Option Datagram
  | .receive _ _ (.ok datagram) => some datagram
  | _ => none

-- A channel of any kind, with the calls that were made on it, the earliest first.
structure Overheard (σ : Type) where
  channel : σ
  calls : List ChannelCall := []

namespace Overheard

open AuditCollector.Frame

variable {σ : Type}

def hear {α : Type} (heard : Overheard σ) (result : α × σ) (call : α → ChannelCall) :
    α × Overheard σ :=
  (result.1, { channel := result.2, calls := heard.calls ++ [call result.1] })

theorem hear_eq {α : Type} {heard heard' : Overheard σ} {result : α × σ} {call : α → ChannelCall}
    {a : α} (h : heard.hear result call = (a, heard')) : result = (a, heard'.channel) := by
  cases h
  rfl

variable [Channel σ]

instance : Channel (Overheard σ) where
  send heard frame := heard.hear (Channel.send heard.channel frame) (.send frame)
  receive heard capacity mode peek :=
    heard.hear (Channel.receive heard.channel capacity mode peek) (.receive mode peek)
  waitReadable heard :=
    heard.hear (Channel.waitReadable heard.channel) (.wait (Channel.stopRequested heard.channel))
  close heard := do
    let channel ← Channel.close heard.channel
    return { channel, calls := heard.calls ++ [.close] }
  stopRequested heard := Channel.stopRequested heard.channel
  remaining heard := Channel.remaining heard.channel
  send_interrupted h := Channel.send_interrupted (hear_eq h)
  receive_le h := Channel.receive_le (hear_eq h)
  receive_retries h := Channel.receive_retries (hear_eq h)
  wait_not_ready h := Channel.wait_not_ready (hear_eq h)
  wait_ready h h' := Channel.wait_ready (hear_eq h) (hear_eq h')

section Calls

variable {heard : Overheard σ} {s : σ} {capacity : Nat} {mode : ReceiveMode} {peek : Peek}

theorem send_eq {frame : Bytes} {outcome : Except IoError Nat}
    (h : Channel.send heard.channel frame = (outcome, s)) :
    Channel.send heard frame =
      (outcome, { channel := s, calls := heard.calls ++ [.send frame outcome] }) := by
  change heard.hear _ _ = _
  rw [hear, h]

theorem receive_eq {result : Except IoError Datagram}
    (h : Channel.receive heard.channel capacity mode peek = (result, s)) :
    Channel.receive heard capacity mode peek =
      (result, { channel := s, calls := heard.calls ++ [.receive mode peek result] }) := by
  change heard.hear _ _ = _
  rw [hear, h]

theorem waitReadable_eq {result : Except IoError Bool}
    (h : Channel.waitReadable heard.channel = (result, s)) :
    Channel.waitReadable heard = (result, {
      channel := s
      calls := heard.calls ++ [.wait (Channel.stopRequested heard.channel) result] }) := by
  change heard.hear _ _ = _
  rw [hear, h]

end Calls

-- What a receive that is repeated does to the channel: some calls that are made again, and
-- one that is not.
inductive Receives (mode : ReceiveMode) (peek : Peek) (result : Except IoError Datagram) :
    List ChannelCall → Prop where
  | decided (hresult : ∀ error, result = .error error → ¬mode.retries error) :
    Receives mode peek result [.receive mode peek result]
  | again {error calls} (herror : mode.retries error) (hreceives : Receives mode peek result calls) :
    Receives mode peek result (.receive mode peek (.error error) :: calls)

-- All that was received is what came of the last call.
theorem Receives.received_of_ok {mode : ReceiveMode} {peek : Peek} {datagram : Datagram}
    {calls : List ChannelCall} (h : Receives mode peek (.ok datagram) calls) :
    calls.filterMap ChannelCall.received? = [datagram] := by
  induction h with
  | decided _ => rfl
  | again _ _ ih => exact ih

theorem Receives.received_of_error {mode : ReceiveMode} {peek : Peek} {error : IoError}
    {calls : List ChannelCall} (h : Receives mode peek (.error error) calls) :
    calls.filterMap ChannelCall.received? = [] := by
  induction h with
  | decided _ => rfl
  | again _ _ ih => exact ih

-- So the calls are some that are made again, and one that is not.
theorem Receives.exists_retried {mode : ReceiveMode} {peek : Peek}
    {outcome : Except IoError Datagram} {calls : List ChannelCall}
    (h : Receives mode peek outcome calls) :
    ∃ retried : List IoError,
      calls = retried.map (fun error => .receive mode peek (.error error)) ++
        [.receive mode peek outcome] ∧
      (∀ error ∈ retried, mode.retries error) ∧
      ∀ error, outcome = .error error → ¬mode.retries error := by
  induction h with
  | decided hresult => exact ⟨[], rfl, nofun, hresult⟩
  | @again error calls herror _ ih =>
    obtain ⟨retried, rfl, hretried, hresult⟩ := ih
    exact ⟨error :: retried, rfl, List.forall_mem_cons.mpr ⟨herror, hretried⟩, hresult⟩

-- Overheard or not, a receive that is repeated ends in the same way.
theorem receiveRepeatedly_eq {s s' : σ} {capacity : Nat} {mode : ReceiveMode} {peek : Peek}
    {result : Except IoError Datagram} (earlier : List ChannelCall)
    (h : Channel.receiveRepeatedly s capacity mode peek = (result, s')) :
    ∃ calls, Receives mode peek result calls ∧
      Channel.receiveRepeatedly (⟨s, earlier⟩ : Overheard σ) capacity mode peek =
        (result, { channel := s', calls := earlier ++ calls }) := by
  fun_induction Channel.receiveRepeatedly s capacity mode peek generalizing earlier with
  | case1 s datagram s₁ hreceive =>
    cases h
    exact ⟨_, .decided (by rintro error ⟨⟩), Channel.receiveRepeatedly_of_ok (receive_eq hreceive)⟩
  | case2 s error s₁ hreceive hretries hless ih =>
    obtain ⟨calls, hreceives, hrest⟩ := ih (earlier ++ [.receive mode peek (.error error)]) h
    refine ⟨_, .again hretries hreceives, ?_⟩
    rw [Channel.receiveRepeatedly_of_error (receive_eq hreceive), if_pos hretries, hrest]
    simp
  | case3 s error s₁ hreceive hretries =>
    cases h
    refine ⟨_, .decided ?_, ?_⟩
    · rintro error ⟨⟩
      exact hretries
    · rw [Channel.receiveRepeatedly_of_error (receive_eq hreceive), if_neg hretries]

-- A send makes the same call until it is not interrupted.
theorem sendRepeatedly_eq {s s' : σ} {frame : Bytes} {outcome : Except IoError Nat}
    (earlier : List ChannelCall) (h : Channel.sendRepeatedly s frame = (outcome, s')) :
    outcome ≠ .error .interrupted ∧ ∃ again,
      Channel.sendRepeatedly (⟨s, earlier⟩ : Overheard σ) frame = (outcome, {
        channel := s'
        calls := earlier ++ List.replicate again (.send frame (.error .interrupted)) ++
          [.send frame outcome] }) := by
  fun_induction Channel.sendRepeatedly s frame generalizing earlier with
  | case1 s sent s₁ hsend =>
    cases h
    refine ⟨nofun, 0, ?_⟩
    rw [Channel.sendRepeatedly_of_ok (send_eq hsend), List.replicate_zero, List.append_nil]
  | case2 s s₁ hsend hless ih =>
    obtain ⟨hdecided, again, hrest⟩ := ih (earlier ++ [.send frame (.error .interrupted)]) h
    refine ⟨hdecided, again + 1, ?_⟩
    rw [Channel.sendRepeatedly_of_error (send_eq hsend), if_pos rfl, hrest, List.replicate_succ]
    simp only [List.append_assoc, List.cons_append, List.nil_append]
  | case3 s error s₁ hsend hother =>
    cases h
    refine ⟨fun hsame => hother (Except.error.inj hsame), 0, ?_⟩
    rw [Channel.sendRepeatedly_of_error (send_eq hsend), if_neg hother, List.replicate_zero,
      List.append_nil]

end Overheard

end AuditCollector
