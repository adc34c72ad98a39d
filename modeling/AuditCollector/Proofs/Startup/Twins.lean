import AuditCollector.Proofs.Channel.Twins
import AuditCollector.Proofs.Startup.Steps

namespace AuditCollector

open AuditCollector.Frame

variable {σ τ : Type} [Channel σ] [Channel τ] (twins : Channel.Twins σ τ)

-- Clients of twins, at the same number.
structure Client.Alike (client : Client σ) (client' : Client τ) : Prop where
  channel : twins.related client.channel client'.channel
  sequence : client.sequence = client'.sequence

variable {twins} {client : Client σ} {client' : Client τ}

namespace Client

theorem awaitAck_same {s : σ} {t : τ} (h : twins.related s t) (sequence : UInt32) :
    (awaitAck s sequence).value.1 = (awaitAck t sequence).value.1 ∧
      twins.related (awaitAck s sequence).value.2 (awaitAck t sequence).value.2 := by
  simp only [awaitAck, Traced.value_bind]
  obtain ⟨hresult, hrelated, henvelope⟩ :=
    Exchange.receive_same twins h Envelope.zero .blocking .peekOnly
  rcases hs : (Exchange.receive s Envelope.zero .blocking .peekOnly).value
    with ⟨peeked, s', envelope⟩
  rcases ht : (Exchange.receive t Envelope.zero .blocking .peekOnly).value
    with ⟨peeked', t', envelope'⟩
  rw [hs, ht] at hresult hrelated henvelope
  cases hresult
  rcases peeked with error | _ | reply
  · exact ⟨rfl, hrelated⟩
  · exact ⟨rfl, hrelated⟩
  · obtain rfl : envelope = envelope' := henvelope reply rfl
    simp only
    split
    · rw [value_compare, value_compare]
      exact ⟨rfl, hrelated⟩
    · simp only [Traced.value_bind]
      obtain ⟨hresult', hrelated', -⟩ :=
        Exchange.receive_same twins hrelated envelope .blocking .consume
      rcases hs' : (Exchange.receive s' envelope .blocking .consume).value
        with ⟨taken, s'', envelope''⟩
      rcases ht' : (Exchange.receive t' envelope .blocking .consume).value
        with ⟨taken', t'', envelope'''⟩
      rw [hs', ht'] at hresult' hrelated'
      cases hresult'
      rcases taken with error | _ | reply'
      · exact ⟨rfl, hrelated'⟩
      · rw [value_compare, value_compare]
        exact ⟨rfl, hrelated'⟩
      · simp only
        split
        · rw [value_compare, value_compare]
          exact ⟨rfl, hrelated'⟩
        · split
          · rw [value_compare, value_compare]
            exact ⟨rfl, hrelated'⟩
          · exact ⟨rfl, hrelated'⟩

theorem send_same (h : client.Alike twins client') (messageType : UInt16) (payload : Bytes) :
    (client.send messageType payload).value.1 = (client'.send messageType payload).value.1 ∧
      (client.send messageType payload).value.2.Alike twins
        (client'.send messageType payload).value.2 := by
  obtain ⟨hresult, hrelated, hsequence⟩ :=
    Exchange.send_same twins h.channel client.sequence messageType payload
  simp only [send, Traced.value_bind, ← h.sequence]
  rcases hs : (Exchange.send client.channel client.sequence messageType payload).value
    with ⟨sent, s, counter⟩
  rcases ht : (Exchange.send client'.channel client.sequence messageType payload).value
    with ⟨sent', t, counter'⟩
  rw [hs, ht] at hresult hrelated hsequence
  cases hresult
  cases hsequence
  rcases sent with error | number
  · exact ⟨rfl, hrelated, rfl⟩
  · obtain ⟨hanswered, hrelated'⟩ := awaitAck_same hrelated number
    simp only [Traced.value_bind, Traced.value_pure, hanswered]
    exact ⟨trivial, hrelated', rfl⟩

theorem discardFollowUp_same {s : σ} {t : τ} (h : twins.related s t) :
    twins.related (discardFollowUp s).value (discardFollowUp t).value := by
  obtain ⟨-, hrelated, -⟩ :=
    Exchange.receive_same twins h Envelope.zero .nonBlocking .consume
  rw [value_discardFollowUp, value_discardFollowUp]
  exact hrelated

theorem setPid_same (h : client.Alike twins client') (pid : UInt32) (discard : Bool) :
    (client.setPid pid discard).value.1 = (client'.setPid pid discard).value.1 ∧
      (client.setPid pid discard).value.2.Alike twins (client'.setPid pid discard).value.2 := by
  obtain ⟨hresult, halike⟩ :=
    send_same h Envelope.setStatusType (registration pid).toBytes
  simp only [setPid, Traced.value_bind]
  rcases hs : (client.send Envelope.setStatusType (registration pid).toBytes).value
    with ⟨sent, next⟩
  rcases ht : (client'.send Envelope.setStatusType (registration pid).toBytes).value
    with ⟨sent', next'⟩
  rw [hs, ht] at hresult halike
  cases hresult
  rcases sent with error | number
  · exact ⟨rfl, halike⟩
  · cases discard
    · exact ⟨rfl, halike⟩
    · exact ⟨rfl, discardFollowUp_same halike.channel, halike.sequence⟩

end Client

namespace Startup

open Rule

theorem installWatch_same (h : client.Alike twins client') (accounts : Accounts)
    (watch : WatchConfig) :
    (installWatch accounts client watch).value.1 = (installWatch accounts client' watch).value.1 ∧
      (installWatch accounts client watch).value.2.Alike twins
        (installWatch accounts client' watch).value.2 := by
  cases hrule : watch.rule accounts with
  | error error =>
    rw [installWatch_of_error hrule, installWatch_of_error hrule]
    exact ⟨rfl, h⟩
  | ok rule =>
    obtain ⟨hresult, halike⟩ := Client.send_same h Envelope.addRuleType rule.toBytes
    rw [installWatch_of_rule hrule, installWatch_of_rule hrule, hresult]
    exact ⟨rfl, halike⟩

theorem installWatches_same (h : client.Alike twins client') (accounts : Accounts)
    (report : StartupReport) (watches : List WatchConfig) :
    (installWatches accounts client report watches).value.1 =
        (installWatches accounts client' report watches).value.1 ∧
      (installWatches accounts client report watches).value.2.Alike twins
        (installWatches accounts client' report watches).value.2 := by
  induction watches generalizing client client' report with
  | nil => exact ⟨rfl, h⟩
  | cons watch watches ih =>
    obtain ⟨hinstalled, halike⟩ := installWatch_same h accounts watch
    simp only [installWatches, Traced.value_bind, hinstalled]
    exact ih halike _

theorem applyState_same (h : client.Alike twins client') (state? : Option EnabledState) :
    (applyState client state?).value.Alike twins (applyState client' state?).value := by
  cases state? with
  | none => exact h
  | some state =>
    rw [applyState_some, applyState_some]
    exact (Client.send_same h _ _).2

-- The whole startup goes the same way for both.
theorem configureKernel_same (h : client.Alike twins client') (accounts : Accounts)
    (config : Config) (pid : UInt32) :
    (configureKernel accounts client config pid).value.1 =
        (configureKernel accounts client' config pid).value.1 ∧
      (configureKernel accounts client config pid).value.2.Alike twins
        (configureKernel accounts client' config pid).value.2 := by
  obtain ⟨hreport, hinstalled⟩ := installWatches_same h accounts {} config.watches
  obtain ⟨hresult, hregistered⟩ :=
    Client.setPid_same (applyState_same hinstalled config.enabledState?) pid true
  rw [configureKernel_of_installed rfl pid, configureKernel_of_installed rfl pid]
  simp only [hreport, hresult]
  exact ⟨trivial, hregistered⟩

end Startup

end AuditCollector
