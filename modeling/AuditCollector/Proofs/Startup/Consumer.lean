import AuditCollector.Proofs.Kernel.Consumer
import AuditCollector.Proofs.Startup.Verdicts

namespace AuditCollector.Startup

open AuditCollector.Frame AnsweringKernel

variable {accounts : Rule.Accounts} {client : Client AnsweringKernel} {answers : Nat → Answer}
  {standing standing' : Standing} {consumer : UInt32}

theorem installWatch_of_reached (h : client.channel.Reached answers standing consumer)
    (watch : WatchConfig) {own? : Option Answer}
    (hsubmit : standing.submit answers (watchLength? accounts watch) = (own?, standing')) :
    (installWatch accounts client watch).value.2.channel.Reached answers standing' consumer := by
  unfold watchLength? at hsubmit
  cases hrule : watch.rule accounts with
  | error error =>
    rw [hrule] at hsubmit
    cases hsubmit
    rw [installWatch_of_error hrule]
    exact h
  | ok rule =>
    rw [hrule] at hsubmit
    have hnamed : ∀ length number, named? (Envelope.requestBytes length Envelope.addRuleType number
        rule.toBytes) = none := by
      intro length number
      rw [named?, isRegistration_of_ne (by decide)]
      rfl
    have hleft := Client.send_of_reached h hnamed hsubmit
    rw [Option.getD_none, ite_self] at hleft
    rw [installWatch_of_rule hrule]
    exact hleft

theorem installWatches_of_reached (h : client.channel.Reached answers standing consumer)
    (report : StartupReport) (watches : List WatchConfig) {own : List (Option Answer)}
    (hsubmit : standing.submitAll answers (watches.map (watchLength? accounts)) = (own, standing')) :
    (installWatches accounts client report watches).value.2.channel.Reached answers standing'
      consumer := by
  induction watches generalizing client standing report own with
  | nil =>
    cases hsubmit
    exact h
  | cons watch watches ih =>
    rcases hfirst : standing.submit answers (watchLength? accounts watch) with ⟨own?, between⟩
    rcases hrest : between.submitAll answers (watches.map (watchLength? accounts))
      with ⟨own', standing''⟩
    simp only [List.map_cons, Standing.submitAll, hfirst, hrest, Prod.mk.injEq] at hsubmit
    obtain ⟨-, rfl⟩ := hsubmit
    exact ih (installWatch_of_reached h watch hfirst) _ hrest

theorem applyState_of_reached (h : client.channel.Reached answers standing consumer)
    (state? : Option EnabledState) {own : List (Option Answer)}
    (hsubmit : standing.submitAll answers (stateLengths state?) = (own, standing')) :
    (applyState client state?).value.channel.Reached answers standing' consumer := by
  cases state? with
  | none =>
    cases hsubmit
    exact h
  | some state =>
    rcases hfirst : standing.submit answers (requestLength? Status.encodedLength)
      with ⟨own?, standing''⟩
    simp only [stateLengths, Standing.submitAll, hfirst, Prod.mk.injEq] at hsubmit
    obtain ⟨-, rfl⟩ := hsubmit
    rw [← Status.length_toBytes (stateRequest state)] at hfirst
    have hnamed : ∀ length number, named? (Envelope.requestBytes length Envelope.setStatusType number
        (stateRequest state).toBytes) = none := by
      intro length number
      have hmask : (stateRequest state).mask = Status.Part.enabled.bit := rfl
      rw [named?_requestBytes, hmask]
      rfl
    have hleft := Client.send_of_reached h hnamed hfirst
    rw [Option.getD_none, ite_self] at hleft
    rw [applyState_some]
    exact hleft

theorem setPid_of_reached (h : client.channel.Reached answers standing consumer) (pid : UInt32)
    {own? : Option Answer}
    (hsubmit : standing.submit answers (requestLength? Status.encodedLength) = (own?, standing')) :
    (client.setPid pid true).value.2.channel.Reached answers standing'
      (if wentWell own? then pid else consumer) := by
  rw [← Status.length_toBytes (Client.registration pid)] at hsubmit
  have hnamed : ∀ length number, named? (Envelope.requestBytes length Envelope.setStatusType number
      (Client.registration pid).toBytes) = some pid := by
    intro length number
    have hmask : (Client.registration pid).mask = Status.Part.pid.bit := rfl
    rw [named?_requestBytes, hmask]
    rfl
  have hleft := Client.send_of_reached h hnamed hsubmit
  rcases hsent : (client.send Envelope.setStatusType (Client.registration pid).toBytes).value
    with ⟨error | number, client'⟩
  · rw [hsent] at hleft
    rw [Client.setPid_of_error hsent]
    exact hleft
  · rw [hsent] at hleft
    rw [Client.setPid_of_ok hsent]
    exact Client.discardFollowUp_of_reached hleft

-- Who gets the messages in the end is up to what the kernel said to the registration, and
-- not to what was received of it.
theorem consumer_configureKernel (kernel : AnsweringKernel) (accounts : Rule.Accounts)
    (sequence : SequenceCounter) (config : Config) (pid : UInt32) :
    let own := (kernel.standing.submitAll kernel.answers (requestLengths accounts config)).1
    (configureKernel accounts ⟨kernel, sequence⟩ config pid).value.2.channel.consumer =
      if wentWell own.getLast?.join then pid else kernel.consumer := by
  obtain ⟨watchOwn, standing, stateOwn, standing', own?, standing'', hwatches, hstate, hregistration,
    hown, -⟩ := exists_submitAll_requestLengths kernel.standing kernel.answers accounts config
  have hstart : kernel.Reached kernel.answers kernel.standing kernel.consumer := ⟨rfl, rfl, rfl⟩
  have hinstalled := @installWatches_of_reached accounts ⟨kernel, sequence⟩ _ _ _ _ hstart {} _ _ hwatches
  have hregistered := setPid_of_reached (applyState_of_reached hinstalled _ hstate) pid hregistration
  intro own
  rw [configureKernel_of_installed rfl pid]
  simp only [own, hown, List.getLast?_concat, Option.join_some]
  exact hregistered.consumer

end AuditCollector.Startup
