import AuditCollector.Proofs.EventLoop.States
import AuditCollector.Proofs.Startup.Twins

namespace AuditCollector

open AuditCollector.Frame AuditCollector.Scripted

variable {σ τ φ : Type} [Channel σ] [Channel τ] [FileSystem φ]

-- Loops of twins with the same log. Their envelopes can hold anything.
structure EventLoop.Alike (twins : Channel.Twins σ τ) (loop : EventLoop σ φ)
    (loop' : EventLoop τ φ) : Prop where
  client : loop.client.Alike twins loop'.client
  log : loop.log = loop'.log
  files : loop.files = loop'.files

namespace EventLoop

variable {twins : Channel.Twins σ τ} {loop : EventLoop σ φ} {loop' : EventLoop τ φ}

theorem dispatch_same (h : loop.Alike twins loop') :
    loop.dispatch.value.1 = loop'.dispatch.value.1 ∧
      loop.dispatch.value.2.Alike twins loop'.dispatch.value.2 := by
  obtain ⟨hrecord, hrelated⟩ :=
    Exchange.receive_any twins h.client.channel loop.envelope loop'.envelope .blocking .consume
  simp only [dispatch, Traced.value_bind]
  rcases hs : (Exchange.receive loop.client.channel loop.envelope .blocking .consume).value
    with ⟨received, s, envelope⟩
  rcases ht : (Exchange.receive loop'.client.channel loop'.envelope .blocking .consume).value
    with ⟨received', t, envelope'⟩
  rw [hs, ht] at hrecord hrelated
  cases hrecord with
  | failure error error' => exact ⟨rfl, ⟨hrelated, h.client.sequence⟩, h.log, h.files⟩
  | nothing => exact ⟨rfl, ⟨hrelated, h.client.sequence⟩, h.log, h.files⟩
  | @record reply reply' hpayload =>
    simp only [Traced.value_bind, ← hpayload, ← h.log, ← h.files]
    rcases (loop.log.append loop.files reply.payload).value with ⟨error | _, log, files⟩
    · exact ⟨rfl, ⟨hrelated, h.client.sequence⟩, rfl, rfl⟩
    · exact ⟨rfl, ⟨hrelated, h.client.sequence⟩, rfl, rfl⟩

theorem turn_same (h : loop.Alike twins loop') :
    loop.turn.value.1 = loop'.turn.value.1 ∧
      loop.turn.value.2.Alike twins loop'.turn.value.2 := by
  obtain ⟨hresult, hrelated⟩ := twins.wait h.client.channel
  rcases hs : Channel.waitReadable loop.client.channel with ⟨result, s⟩
  rcases ht : Channel.waitReadable loop'.client.channel with ⟨result', t⟩
  rw [hs, ht] at hresult hrelated
  cases hresult
  by_cases hready : result = .ok true
  · subst hready
    rw [turn_of_ready hs, turn_of_ready ht]
    have hnext : ({ loop with
        client := { loop.client with channel := s }
        activity := .dispatching } : EventLoop σ φ).Alike twins { loop' with
          client := { loop'.client with channel := t }
          activity := .dispatching } :=
      ⟨⟨hrelated, h.client.sequence⟩, h.log, h.files⟩
    obtain ⟨hturn, halike⟩ := dispatch_same hnext
    exact ⟨hturn, halike.client, halike.log, halike.files⟩
  · rw [turn_of_not_ready hs hready, turn_of_not_ready ht hready]
    exact ⟨rfl, ⟨hrelated, h.client.sequence⟩, h.log, h.files⟩

-- What came of each turn.
def turns (loop : EventLoop σ φ) : List Turn := loop.states.map (·.turn.value.1)

-- By induction on the turns of the one loop, each of which the other takes as well.
theorem takeTurns_same (h : loop.Alike twins loop') :
    loop.turns = loop'.turns ∧ loop.takeTurns.value.1 = loop'.takeTurns.value.1 ∧
      loop.takeTurns.value.2.Alike twins loop'.takeTurns.value.2 := by
  unfold turns
  fun_induction states loop generalizing loop' with
  | case1 loop hstop =>
    have hstop' : loop'.stopRequested = true := (twins.stop h.client.channel).symm.trans hstop
    rw [states_of_stop hstop', takeTurns_of_stop hstop, takeTurns_of_stop hstop']
    exact ⟨rfl, rfl, h⟩
  | case2 loop hstop ih =>
    have hgo : loop.stopRequested = false := by simpa using hstop
    have hgo' : loop'.stopRequested = false := (twins.stop h.client.channel).symm.trans hgo
    obtain ⟨hturn, halike⟩ := turn_same h
    obtain ⟨hturns, hcount, hend⟩ := ih halike
    rw [states_of_go hgo', takeTurns_of_go hgo, takeTurns_of_go hgo', hturn, hcount]
    refine ⟨?_, rfl, hend⟩
    rw [List.map_cons, List.map_cons, hturn, hturns]

theorem run_same (h : loop.Alike twins loop') :
    loop.run.value.1 = loop'.run.value.1 ∧ loop.run.value.2.Alike twins loop'.run.value.2 := by
  obtain ⟨-, hcount, hend⟩ := takeTurns_same h
  exact ⟨hcount, hend.client, hend.log, hend.files⟩

theorem shutdown_same (h : loop.Alike twins loop') :
    loop.shutdown.value.1 = loop'.shutdown.value.1 ∧
      twins.related loop.shutdown.value.2.1 loop'.shutdown.value.2.1 ∧
      loop.shutdown.value.2.2 = loop'.shutdown.value.2.2 := by
  obtain ⟨-, halike⟩ := Client.setPid_same h.client 0 false
  rw [value_shutdown, value_shutdown, h.log, h.files]
  exact ⟨rfl, twins.close halike.channel, rfl⟩

end EventLoop

-- What can be seen of a session: what came of the startup, of each turn and of the shutdown,
-- the files that it leaves, and the frames that it sent.
structure Session (φ : Type) where
  configured : Except ExchangeError StartupReport
  turns : List Turn
  recorded : Nat
  stopped : Except LogError Unit
  files : φ
  sent : List Bytes

namespace Session

-- Starts up, records messages until it is time to stop, and shuts down.
def play (accounts : Rule.Accounts) (config : Config) (pid : UInt32) (log : Log) (files : φ)
    (client : Client (Overheard σ)) : Session φ :=
  let configured := (Startup.configureKernel accounts client config pid).value
  let loop : EventLoop (Overheard σ) φ := { client := configured.2, log, files }
  let ran := loop.run.value
  let stopped := ran.2.shutdown.value
  { configured := configured.1
    turns := loop.turns
    recorded := ran.1
    stopped := stopped.1
    files := stopped.2.2
    sent := (Overheard.memory σ).sent stopped.2.1 }

-- What strangers write into their messages makes no difference to anything that can be seen.
theorem play_of_twins {twins : Channel.Twins σ τ} {s : σ} {t : τ} (h : twins.related s t)
    (accounts : Rule.Accounts) (config : Config) (pid : UInt32) (sequence : SequenceCounter)
    (log : Log) (files : φ) :
    play accounts config pid log files ⟨⟨s, []⟩, sequence⟩ =
      play accounts config pid log files ⟨⟨t, []⟩, sequence⟩ := by
  have hclient : Client.Alike twins.overheard ⟨⟨s, []⟩, sequence⟩ ⟨⟨t, []⟩, sequence⟩ :=
    ⟨⟨h, rfl⟩, rfl⟩
  obtain ⟨hconfigured, hstarted⟩ := Startup.configureKernel_same hclient accounts config pid
  have hloop : EventLoop.Alike twins.overheard
      { client := (Startup.configureKernel accounts ⟨⟨s, []⟩, sequence⟩ config pid).value.2, log, files }
      { client := (Startup.configureKernel accounts ⟨⟨t, []⟩, sequence⟩ config pid).value.2, log, files } :=
    ⟨hstarted, rfl, rfl⟩
  obtain ⟨hturns, -, -⟩ := EventLoop.takeTurns_same hloop
  obtain ⟨hcount, hran⟩ := EventLoop.run_same hloop
  obtain ⟨hstopped, hclosed, hfiles⟩ := EventLoop.shutdown_same hran
  exact Session.mk.injEq .. |>.mpr ⟨hconfigured, hturns, hcount, hstopped, hfiles, hclosed.2⟩

-- A forged acknowledgement, and a forged message of another length in its place. The message of
-- the kernel that comes after it is shorter than both.
theorem play_of_twins_two_forgeries :
    let inbound (frame : Bytes) : List Inbound := [
      .message [20, 0, 0, 0, 2, 0, 0, 0, 1, 0, 0, 0, 0, 0, 0, 0, 0, 0, 0, 0] ⟨12, 0⟩ none false,
      .failure .wouldBlock,
      .message frame ⟨12, 7⟩ none false,
      .message [18, 0, 0, 0, 20, 5, 0, 0, 0, 0, 0, 0, 0, 0, 0, 0, 70, 71, 72] ⟨12, 0⟩ none false]
    let accounts : Rule.Accounts := ⟨fun _ => none, fun _ => none⟩
    ∃ log files, (Log.start ({ disk := .empty } : FaultyDisk) "log" "old" 100).value =
        (.ok log, files) ∧
      let client (frame : Bytes) : Client (Overheard Socket) :=
        ⟨⟨{ inbound := inbound frame }, []⟩, {}⟩
      let played (frame : Bytes) := play accounts {} 4242 log files (client frame)
      let acknowledgement : Bytes :=
        [20, 0, 0, 0, 2, 0, 0, 0, 1, 0, 0, 0, 0, 0, 0, 0, 0, 0, 0, 0]
      let longer : Bytes := List.replicate 40 65
      played acknowledgement = played longer ∧
        (played longer).turns = [.skipped, .recorded, .interrupted] := by
  intro inbound accounts
  refine ⟨_, _, rfl, ?_⟩
  intro client played acknowledgement longer
  have hrelated : Socket.twins.related { inbound := inbound acknowledgement }
      { inbound := inbound longer } := by
    refine ⟨.cons (.same (by decide)) (.cons (.failure _) (.cons (.stranger (by decide))
      (.cons (.same (by decide)) .nil))), rfl, rfl, rfl⟩
  exact ⟨play_of_twins hrelated accounts {} 4242 {} _ _, by decide +kernel⟩

end Session

end AuditCollector
