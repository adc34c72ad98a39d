import AuditCollector.Proofs.Client.Requests
import AuditCollector.Proofs.EventLoop.States
import AuditCollector.Proofs.Startup.Steps

namespace AuditCollector

open AuditCollector.Frame

-- What is true of a channel whatever is received, and however long it is waited for that.
structure Channel.Quiet {σ : Type} [Channel σ] (P : σ → Prop) : Prop where
  receive (s : σ) (capacity : Nat) (mode : ReceiveMode) (peek : Peek) :
    P s → P (Channel.receive s capacity mode peek).2
  wait (s : σ) : P s → P (Channel.waitReadable s).2

-- And whatever is sent.
structure Channel.Invariant {σ : Type} [Channel σ] (P : σ → Prop) : Prop extends
    Channel.Quiet P where
  send (s : σ) (frame : Bytes) : P s → P (Channel.send s frame).2

namespace Channel.Invariant

variable {σ : Type} [Channel σ] {P : σ → Prop} (hinvariant : Channel.Invariant P)
  {client : Client σ}

include hinvariant

theorem client_send (h : P client.channel) (messageType : UInt16) (payload : Bytes) :
    P (client.send messageType payload).value.2.channel :=
  Client.send_preserves hinvariant.send
    (fun _ sequence hs => Client.awaitAck_preserves hinvariant.receive hs sequence) h messageType payload

theorem setPid (h : P client.channel) (pid : UInt32) (discard : Bool) :
    P (client.setPid pid discard).value.2.channel := by
  have hsent := hinvariant.client_send h Envelope.setStatusType (Client.registration pid).toBytes
  simp only [Client.setPid, Traced.value_bind]
  rcases hs : (client.send Envelope.setStatusType (Client.registration pid).toBytes).value
    with ⟨error | number, client'⟩
  · rw [hs] at hsent
    exact hsent
  · rw [hs] at hsent
    cases discard
    · exact hsent
    · exact Client.discardFollowUp_preserves hinvariant.receive hsent

theorem installWatches (h : P client.channel) (accounts : Rule.Accounts) (report : StartupReport)
    (watches : List WatchConfig) :
    P (Startup.installWatches accounts client report watches).value.2.channel := by
  induction watches generalizing client report with
  | nil => exact h
  | cons watch watches ih =>
    have hfirst : P (Startup.installWatch accounts client watch).value.2.channel := by
      cases hrule : watch.rule accounts with
      | error error =>
        rw [Startup.installWatch_of_error hrule]
        exact h
      | ok rule =>
        rw [Startup.installWatch_of_rule hrule]
        exact hinvariant.client_send h _ _
    simp only [Startup.installWatches, Traced.value_bind]
    exact ih hfirst _

theorem applyState (h : P client.channel) (state? : Option EnabledState) :
    P (Startup.applyState client state?).value.channel := by
  cases state? with
  | none => exact h
  | some state =>
    rw [Startup.applyState_some]
    exact hinvariant.client_send h _ _

theorem configureKernel (h : P client.channel) (accounts : Rule.Accounts) (config : Config)
    (pid : UInt32) : P (Startup.configureKernel accounts client config pid).value.2.channel := by
  have hinstalled := hinvariant.installWatches h accounts {} config.watches
  rw [Startup.configureKernel_of_installed rfl pid]
  exact hinvariant.setPid (hinvariant.applyState hinstalled config.enabledState?) pid true

end Channel.Invariant

namespace EventLoop

variable {σ φ : Type} [Channel σ] [FileSystem φ] {loop : EventLoop σ φ}

-- What each turn keeps, all turns keep.
theorem takeTurns_preserves {P : EventLoop σ φ → Prop} (hturn : ∀ loop, P loop → P loop.turn.value.2)
    (h : P loop) : P loop.takeTurns.value.2 := by
  fun_induction states loop with
  | case1 loop hstop =>
    rw [takeTurns_of_stop hstop]
    exact h
  | case2 loop hstop ih =>
    rw [takeTurns_of_go (by simpa using hstop)]
    exact ih (hturn loop h)

-- The turns only wait and receive, and do nothing else with the client.
theorem turn_quiet {P : σ → Prop} (hquiet : Channel.Quiet P) (h : P loop.client.channel) :
    P loop.turn.value.2.client.channel := by
  have hwaited := hquiet.wait loop.client.channel h
  rcases hwait : Channel.waitReadable loop.client.channel with ⟨result, s⟩
  rw [hwait] at hwaited
  by_cases hready : result = .ok true
  · subst hready
    rw [turn_of_ready hwait]
    simp only [channel_dispatch]
    exact Client.receiveRepeatedly_preserves hquiet.receive hwaited _ _ _
  · rw [turn_of_not_ready hwait hready]
    exact hwaited

theorem sequence_turn (loop : EventLoop σ φ) :
    loop.turn.value.2.client.sequence = loop.client.sequence := by
  rcases hwait : Channel.waitReadable loop.client.channel with ⟨result, s⟩
  by_cases hready : result = .ok true
  · subst hready
    rw [turn_of_ready hwait]
    simp only [dispatch, Traced.value_bind]
    rcases (Exchange.receive s loop.envelope .blocking .consume).value
      with ⟨error | _ | reply, s', envelope⟩
    · rfl
    · rfl
    · simp only [Traced.value_bind]
      split
      · rfl
      · rfl
  · rw [turn_of_not_ready hwait hready]

-- So they send nothing, under no number.
theorem takeTurns_asks (memory : Channel.Memory σ) (loop : EventLoop σ φ)
    (hvalid : loop.client.sequence.Valid) :
    loop.client.Asks memory [] loop.takeTurns.value.2.client := by
  have hquiet : Channel.Quiet fun s => memory.sent s = memory.sent loop.client.channel :=
    ⟨fun s capacity mode peek h => (memory.receive s capacity mode peek).trans h,
      fun s h => (memory.wait s).trans h⟩
  have hsequence : loop.takeTurns.value.2.client.sequence = loop.client.sequence :=
    takeTurns_preserves (P := fun loop' => loop'.client.sequence = loop.client.sequence)
      (fun loop' h => (sequence_turn loop').trans h) rfl
  have hsent : memory.sent loop.takeTurns.value.2.client.channel = memory.sent loop.client.channel :=
    takeTurns_preserves
      (P := fun loop' => memory.sent loop'.client.channel = memory.sent loop.client.channel)
      (fun _ h => turn_quiet hquiet h) rfl
  exact .of_sent_eq hvalid hsequence hsent

end EventLoop

end AuditCollector
