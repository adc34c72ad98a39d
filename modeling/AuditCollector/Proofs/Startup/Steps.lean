import AuditCollector.Proofs.Client.Send
import AuditCollector.Startup

namespace AuditCollector.Startup

open AuditCollector.Frame AuditCollector.Rule

variable {σ : Type} [Channel σ] {accounts : Accounts} {client client' : Client σ}
  {watch : WatchConfig} {report : StartupReport} {config : Config}

-- A watch without a rule is not asked for.
theorem installWatch_of_error {error : RuleError} (hrule : watch.rule accounts = .error error) :
    (installWatch accounts client watch).value = (false, client) := by
  unfold installWatch
  rw [hrule]
  rfl

theorem installWatch_of_rule {rule : Rule} (hrule : watch.rule accounts = .ok rule) :
    let sent := (client.send Envelope.addRuleType rule.toBytes).value
    (installWatch accounts client watch).value = (sent.1.isOk, sent.2) := by
  unfold installWatch Client.addRule
  simp only [hrule, Traced.value_bind]
  rcases (client.send Envelope.addRuleType rule.toBytes).value with ⟨error | number, client'⟩
  · rfl
  · rfl

-- What is sent to ask for a state.
def stateRequest (state : EnabledState) : Status :=
  { mask := Status.Part.enabled.bit, enabled := state.toUInt32 }

-- Whether the state was set makes no difference.
theorem applyState_some (client : Client σ) (state : EnabledState) :
    (applyState client (some state)).value =
      (client.send Envelope.setStatusType (stateRequest state).toBytes).value.2 := by
  have hset : client.setEnabled state =
      client.send Envelope.setStatusType (stateRequest state).toBytes := rfl
  simp only [applyState, hset, Traced.value_bind]
  rcases (client.send Envelope.setStatusType (stateRequest state).toBytes).value
    with ⟨error | number, client'⟩
  · rfl
  · rfl

theorem configureKernel_of_installed
    (h : (installWatches accounts client {} config.watches).value = (report, client'))
    (pid : UInt32) :
    let registered := ((applyState client' config.enabledState?).value.setPid pid true).value
    (configureKernel accounts client config pid).value =
      (registered.1.map fun _ => report, registered.2) := by
  simp only [configureKernel, Traced.value_bind, h]
  rcases ((applyState client' config.enabledState?).value.setPid pid true).value
    with ⟨error | _, client''⟩
  · rfl
  · rfl

-- Installs the watches, and keeps what became of each of them.
def installEach (accounts : Accounts) (client : Client σ) :
    List WatchConfig → Traced (List Bool × Client σ)
  | [] => return ([], client)
  | watch :: watches => do
    let (installed, client) ← installWatch accounts client watch
    let (rest, client) ← installEach accounts client watches
    return (installed :: rest, client)

-- The report counts the watches that were installed and those that were not.
theorem installWatches_eq_count (accounts : Accounts) (client : Client σ) (report : StartupReport)
    (watches : List WatchConfig) :
    (installWatches accounts client report watches).value =
      (⟨report.installed + (installEach accounts client watches).value.1.count true,
        report.failed + (installEach accounts client watches).value.1.count false⟩,
        (installEach accounts client watches).value.2) := by
  induction watches generalizing client report with
  | nil => rfl
  | cons watch watches ih =>
    simp only [installWatches, installEach, Traced.value_bind, Traced.value_pure, ih]
    cases (installWatch accounts client watch).value.1 with
    | true => simp [Nat.add_assoc, Nat.add_comm 1]
    | false => simp [Nat.add_assoc, Nat.add_comm 1]

end AuditCollector.Startup
