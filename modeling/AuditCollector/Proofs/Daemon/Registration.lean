import AuditCollector.Daemon
import AuditCollector.Disk.Faults
import AuditCollector.Proofs.Kernel.Calls
import AuditCollector.Proofs.Startup.Consumer
import AuditCollector.Toml.Document

namespace AuditCollector

open AuditCollector.Frame AnsweringKernel

namespace Startup

-- If receives get through in the end the outcome is what the kernel said to the registration.
theorem isOk_configureKernel_of_resting {kernel : AnsweringKernel} (hrest : kernel.Resting)
    (accounts : Rule.Accounts) (sequence : SequenceCounter) (config : Config) (pid : UInt32) :
    let own := (kernel.standing.submitAll kernel.answers (requestLengths accounts config)).1
    (configureKernel accounts ⟨kernel, sequence⟩ config pid).value.1.isOk =
      wentWell own.getLast?.join := by
  obtain ⟨watchOwn, standing, stateOwn, standing', own?, standing'', hwatches, hstate, hregistration,
    hown, -⟩ := exists_submitAll_requestLengths kernel.standing kernel.answers accounts config
  obtain ⟨client, hinstalled, hcontinues, -⟩ :=
    @installWatches_of_resting accounts ⟨kernel, sequence⟩ hrest {} config.watches _ _ hwatches
  rw [← hcontinues.standing, ← hcontinues.answers] at hstate
  obtain ⟨hcontinues', -⟩ := applyState_of_resting hcontinues.resting config.enabledState? hstate
  rw [← hcontinues'.standing, ← (hcontinues.trans hcontinues').answers] at hregistration
  obtain ⟨hregistered, -, -⟩ := setPid_of_resting hcontinues'.resting pid hregistration
  intro own
  rw [configureKernel_of_installed hinstalled pid]
  simp only [own, hown, List.getLast?_concat, Option.join_some]
  cases own? with
  | none =>
    obtain ⟨error, hresult, -⟩ := hregistered
    rw [hresult]
    rfl
  | some answer =>
    obtain ⟨registration, -, -, hresult⟩ := hregistered
    rw [hresult]
    by_cases hcode : answer.code = 0
    · simp [hcode, wentWell, Except.map, Except.isOk, Except.toBool]
    · simp [hcode, wentWell, Except.map, Except.isOk, Except.toBool]

theorem wentWell_join_iff (own?? : Option (Option Answer)) :
    wentWell own??.join = true ↔ ∃ answer, own?? = some (some answer) ∧ answer.code = 0 := by
  rcases own?? with _ | _ | answer
  · simp [wentWell]
  · simp [wentWell]
  · simp [wentWell]

end Startup

namespace Daemon

variable {φ : Type} [FileSystem φ] {parser : Toml.Parser} {accounts : Rule.Accounts}
  {kernel kernel' : AnsweringKernel} {files files' : φ} {error : ExchangeError} {pid : UInt32}

-- Only a failed registration ends the work with such an error, and leaves the kernel as it is.
theorem configureKernel_of_serve {config : Config} {socket : AuditSocket AnsweringKernel} {log : Log}
    (hserve : (serve accounts config pid socket log files).value =
      (.error (.exchange error), kernel', files')) :
    let configured := (Startup.configureKernel accounts ⟨socket.system, {}⟩ config pid).value
    configured.1 = .error error ∧ configured.2.channel = kernel' := by
  intro configured
  have hseen : configured = _ := congrArg Traced.value
    (behindSocket.configureKernel ⟨socket, {}⟩ accounts config pid)
  rw [hseen, Traced.value_map]
  simp only [serve, Traced.value_bind] at hserve
  rcases hconfigured : (Startup.configureKernel accounts ⟨socket, {}⟩ config pid).value
    with ⟨failed | report, client⟩
  · have hclose : client.channel.close.value = client.channel := rfl
    simp only [hconfigured, Traced.value_bind, hclose] at hserve
    have hfailed : (Except.error (.exchange failed), client.channel.system, (log.close files).2) =
        ((.error (.exchange error), kernel', files') : Except DaemonError Unit × _ × φ) := by
      split at hserve
      · exact hserve
      · exact hserve
    simp only [Prod.mk.injEq, Except.error.injEq, DaemonError.exchange.injEq] at hfailed
    exact ⟨congrArg Except.error hfailed.1, hfailed.2.1⟩
  · simp only [hconfigured, Traced.value_bind] at hserve
    split at hserve
    · simp at hserve
    · simp at hserve

theorem configureKernel_of_run {line : CommandLine}
    (hrun : (run parser accounts line pid kernel files).value = (.error (.exchange error), kernel', files')) :
    ∃ config, (line.loadConfig parser files).value.1 = .ok config ∧
      let configured := (Startup.configureKernel accounts ⟨kernel, {}⟩ config pid).value
      configured.1 = .error error ∧ configured.2.channel = kernel' := by
  simp only [run, Traced.value_bind] at hrun
  rcases hloaded : (line.loadConfig parser files).value with ⟨failed | config, files₁⟩
  · simp [hloaded] at hrun
  · have hsignals : registerSignals kernel stopSignals = (.ok (), kernel) := rfl
    have hconnect : (AuditSocket.connect kernel).value = (.ok ⟨3, kernel⟩, kernel) := rfl
    simp only [hloaded, hsignals, Traced.value_bind, hconnect] at hrun
    rcases hstarted : (Log.start files₁ config.log.path config.log.rotatedPath config.log.maxBytes).value
      with ⟨failed | log, files₂⟩
    · simp [hstarted] at hrun
    · simp only [hstarted] at hrun
      have hserved := @configureKernel_of_serve φ _ accounts _ _ _ _ _ config ⟨3, kernel⟩ log hrun
      exact ⟨config, rfl, hserved⟩

theorem run_of_configureKernel {line : CommandLine} {config : Config} {log : Log} {files₁ files₂ : φ}
    {client : Client AnsweringKernel} (hloaded : (line.loadConfig parser files).value = (.ok config, files₁))
    (hstarted : (Log.start files₁ config.log.path config.log.rotatedPath config.log.maxBytes).value =
      (.ok log, files₂))
    (hfailed : (Startup.configureKernel accounts ⟨kernel, {}⟩ config pid).value = (.error error, client)) :
    ∃ files', (run parser accounts line pid kernel files).value =
      (.error (.exchange error), client.channel, files') := by
  have hsignals : registerSignals kernel stopSignals = (.ok (), kernel) := rfl
  have hconnect : (AuditSocket.connect kernel).value = (.ok ⟨3, kernel⟩, kernel) := rfl
  have hseen := congrArg Traced.value (behindSocket.configureKernel ⟨⟨3, kernel⟩, {}⟩ accounts config pid)
  rw [Client.seen, behindSocket, hfailed, Traced.value_map] at hseen
  rcases hconfigured : (Startup.configureKernel accounts ⟨(⟨3, kernel⟩ : AuditSocket AnsweringKernel), {}⟩
    config pid).value with ⟨failed | report, client'⟩
  · rw [hconfigured] at hseen
    obtain ⟨herror, rfl⟩ := Prod.mk.inj hseen
    cases herror
    have hclose : client'.channel.close.value = client'.channel := rfl
    refine ⟨(log.close files₂).2, ?_⟩
    simp only [run, serve, Traced.value_bind, hloaded, hsignals, hconnect, hstarted, hconfigured, hclose]
    split
    · rfl
    · rfl
  · rw [hconfigured] at hseen
    cases congrArg Prod.fst hseen

-- A run that could not register leaves the kernel as its own answer to the registration left
-- it. If the answer was not received, then the kernel may well send its messages to a process
-- that has given up.
theorem consumer_run {line : CommandLine} (hconsumer : kernel.consumer ≠ pid)
    (hrun : (run parser accounts line pid kernel files).value = (.error (.exchange error), kernel', files')) :
    ∃ config, (line.loadConfig parser files).value.1 = .ok config ∧
      let own := (kernel.standing.submitAll kernel.answers (Startup.requestLengths accounts config)).1
      (kernel'.consumer = pid ↔ ∃ answer, own.getLast? = some (some answer) ∧ answer.code = 0) ∧
      (kernel.Resting → kernel'.consumer ≠ pid) := by
  obtain ⟨config, hloaded, hfailed, hleft⟩ := configureKernel_of_run hrun
  have hreached := Startup.consumer_configureKernel kernel accounts {} config pid
  refine ⟨config, hloaded, ?_⟩
  intro own
  rw [hleft] at hreached
  have hheld : kernel'.consumer = pid ↔ Startup.wentWell own.getLast?.join = true := by
    rw [hreached]
    split
    · rename_i hwell
      exact iff_of_true rfl hwell
    · rename_i hwell
      exact iff_of_false hconsumer hwell
  refine ⟨hheld.trans (Startup.wentWell_join_iff _), ?_⟩
  intro hrest hregistered
  have hok := Startup.isOk_configureKernel_of_resting hrest accounts {} config pid
  rw [hfailed] at hok
  exact Bool.false_ne_true (hok.trans (hheld.mp hregistered))

-- Without a configuration file all is as usual, but for what the command line says.
private theorem loadConfig_of_missing :
    (({ logFile := some "log", rotatedFile := some "old" } : CommandLine).loadConfig Toml.parse?
      ({ disk := .empty } : FaultyDisk)).value =
        (.ok { log := { path := "log", rotatedPath := "old" } }, { disk := .empty }) := rfl

-- Nothing is configured but the log, and the kernel refuses the registration.
theorem consumer_run_of_refusal :
    let kernel : AnsweringKernel :=
      { answers := fun _ => { code := -17 }, receives := [some .interrupted] }
    let accounts : Rule.Accounts := ⟨fun _ => none, fun _ => none⟩
    let line : CommandLine := { logFile := some "log", rotatedFile := some "old" }
    let files : FaultyDisk := { disk := .empty }
    ∃ error kernel' files', (run Toml.parse? accounts line 4242 kernel files).value =
      (.error (.exchange error), kernel', files') ∧ kernel'.consumer ≠ 4242 := by
  intro kernel accounts line files
  let config : Config := { log := { path := "log", rotatedPath := "old" } }
  have hstarted : (Log.start files "log" "old" 102400).value = (.ok _, _) := rfl
  have hrest : kernel.Resting := ⟨rfl, rfl, fun error h => .inl (by simpa [kernel] using h), rfl⟩
  have hnotOk := Startup.isOk_configureKernel_of_resting hrest accounts {} config 4242
  rcases hfailed : (Startup.configureKernel accounts ⟨kernel, {}⟩ config 4242).value
    with ⟨error | report, client⟩
  · obtain ⟨files', hrun⟩ := run_of_configureKernel loadConfig_of_missing hstarted hfailed
    obtain ⟨config, -, -, hresting⟩ := consumer_run (by decide) hrun
    exact ⟨_, _, _, hrun, hresting hrest⟩
  · rw [hfailed] at hnotOk
    exact absurd hnotOk.symm Bool.false_ne_true

-- The kernel makes us the consumer, and then no buffers are left to receive its answer.
theorem run_leaves_registration :
    let kernel : AnsweringKernel :=
      { answers := fun _ => { code := 0 }, receives := [some (.os 105)] }
    let accounts : Rule.Accounts := ⟨fun _ => none, fun _ => none⟩
    let line : CommandLine := { logFile := some "log", rotatedFile := some "old" }
    let files : FaultyDisk := { disk := .empty }
    kernel.consumer = 0 ∧ ∃ error kernel' files', (run Toml.parse? accounts line 4242 kernel files).value =
      (.error (.exchange error), kernel', files') ∧ kernel'.consumer = 4242 := by
  intro kernel accounts line files
  let config : Config := { log := { path := "log", rotatedPath := "old" } }
  have hstarted : (Log.start files "log" "old" 102400).value = (.ok _, _) := rfl
  have hconsumer := Startup.consumer_configureKernel kernel accounts {} config 4242
  rcases hfailed : (Startup.configureKernel accounts ⟨kernel, {}⟩ config 4242).value
    with ⟨error | report, client⟩
  · obtain ⟨files', hrun⟩ := run_of_configureKernel loadConfig_of_missing hstarted hfailed
    rw [hfailed] at hconsumer
    exact ⟨rfl, _, _, _, hrun, hconsumer⟩
  · -- it cannot be a success, since the answer to the registration is never received
    have hnotOk : (Startup.configureKernel accounts ⟨kernel, {}⟩ config 4242).value.1.isOk =
        false := by decide +kernel
    rw [hfailed] at hnotOk
    cases hnotOk

end Daemon

end AuditCollector
