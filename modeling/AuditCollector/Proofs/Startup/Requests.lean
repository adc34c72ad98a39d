import AuditCollector.Proofs.Channel.View
import AuditCollector.Proofs.Client.Requests
import AuditCollector.Proofs.Config.Validation
import AuditCollector.Proofs.Startup.Steps
import AuditCollector.Scripted.Socket
import Mathlib.Data.Bool.Count

namespace AuditCollector

open AuditCollector.Frame AuditCollector.Rule

-- What is asked of the kernel for a watch, unless it has no rule or too long a one.
def WatchConfig.request? (accounts : Accounts) (watch : WatchConfig) : Option Request :=
  match watch.rule accounts with
  | .error _ => none
  | .ok rule =>
    if rule.toBytes.length ≤ maxPayloadLength then some ⟨Envelope.addRuleType, rule.toBytes⟩
    else none

-- What is asked for a configured state, as a number.
def Config.stateRequest (value : UInt32) : Request :=
  ⟨Envelope.setStatusType,
    ({ mask := Status.Part.enabled.bit, enabled := value } : Status).toBytes⟩

-- All that a configuration asks for: the watches, the state if there is one, and the
-- registration last.
def Config.requests (accounts : Accounts) (config : Config) (pid : UInt32) : List Request :=
  config.watches.filterMap (·.request? accounts) ++ (config.enabled.map stateRequest).toList ++
    [Client.registrationRequest pid]

namespace WatchConfig

variable {accounts : Accounts} {watch : WatchConfig} {rule rule' : Rule}

theorem path_of_setPermissions {permissions : UInt32}
    (h : rule.setPermissions permissions = .ok rule') : rule'.path = rule.path := by
  unfold Rule.setPermissions at h
  split at h
  · cases h
    rfl
  · simp only [Rule.ensureRoom, bind, Except.bind] at h
    split at h
    · cases h
    · cases h
      rfl

theorem path_of_addField {field : Field} {operator : Operator} {value : String}
    (h : rule.addField accounts field operator value = .ok rule') : rule'.path = rule.path := by
  unfold Rule.addField at h
  simp only [bind, Except.bind] at h
  split at h
  · cases h
  · split at h
    · cases h
    · cases h
      rfl

theorem path_of_addFields {fields : List FieldConfig}
    (h : fields.foldlM (fun rule field =>
      rule.addField accounts field.field field.operator field.value) rule = .ok rule') :
    rule'.path = rule.path := by
  induction fields generalizing rule with
  | nil =>
    cases h
    rfl
  | cons field fields ih =>
    rw [List.foldlM_cons] at h
    cases hfirst : rule.addField accounts field.field field.operator field.value with
    | error error =>
      rw [hfirst] at h
      cases h
    | ok next =>
      rw [hfirst] at h
      exact (ih h).trans (path_of_addField hfirst)

-- A rule watches the path that is configured.
theorem path_of_rule (h : watch.rule accounts = .ok rule) : rule.path = Text.utf8 watch.path := by
  unfold WatchConfig.rule at h
  cases hpermissions : watch.permissions with
  | none =>
    rw [hpermissions] at h
    exact path_of_addFields h
  | some permissions =>
    rw [hpermissions] at h
    cases hset : (Rule.directoryWatch (Text.utf8 watch.path)).setPermissions
        (Permission.mask permissions) with
    | error error =>
      simp only [hset, bind, Except.bind] at h
      cases h
    | ok next =>
      simp only [hset, bind, Except.bind] at h
      exact (path_of_addFields h).trans (path_of_setPermissions hset)

-- So it is the path that makes a rule too long: nothing else in it varies in length.
theorem request?_eq_some_iff {request : Request} :
    watch.request? accounts = some request ↔
      ∃ rule, watch.rule accounts = .ok rule ∧ watch.path.utf8ByteSize ≤ 7912 ∧
        request = ⟨Envelope.addRuleType, rule.toBytes⟩ := by
  unfold request?
  cases hrule : watch.rule accounts with
  | error error => simp
  | ok rule =>
    have hfits : rule.toBytes.length ≤ maxPayloadLength ↔ watch.path.utf8ByteSize ≤ 7912 := by
      rw [Rule.length_toBytes, path_of_rule hrule, Text.length_utf8]
      have hfixed : fixedLength = 1040 := rfl
      have hmax : maxPayloadLength = 8952 := rfl
      omega
    simp only [hfits, Option.ite_none_right_eq_some, Option.some.injEq, Except.ok.injEq,
      exists_eq_left', eq_comm (a := request)]

end WatchConfig

-- A state that was checked is one of those that can be set.
theorem Config.enabledState?_of_validate {config : Config} (hvalid : config.validate = .ok ()) :
    config.enabledState?.map EnabledState.toUInt32 = config.enabled := by
  cases henabled : config.enabled with
  | none => simp [Config.enabledState?, henabled]
  | some value =>
    have hle : value ≤ 2 := (Config.validate_eq_ok_iff.mp hvalid).enabled value henabled
    have hcases : value = 0 ∨ value = 1 ∨ value = 2 := by
      have hnat : value.toNat ≤ 2 := hle
      have hword : ∀ {word : UInt32}, value.toNat = word.toNat → value = word := UInt32.toNat.inj
      rcases Nat.lt_or_ge value.toNat 1 with h | h
      · exact .inl (hword (by simp; omega))
      · rcases Nat.lt_or_ge value.toNat 2 with h' | h'
        · exact .inr (.inl (hword (by simp; omega)))
        · exact .inr (.inr (hword (by simp; omega)))
    rcases hcases with rfl | rfl | rfl
    · simp only [Config.enabledState?, henabled, Option.bind_some, Option.map_eq_some_iff]
      exact ⟨.disabled, rfl, rfl⟩
    · simp only [Config.enabledState?, henabled, Option.bind_some, Option.map_eq_some_iff]
      exact ⟨.enabled, rfl, rfl⟩
    · simp only [Config.enabledState?, henabled, Option.bind_some, Option.map_eq_some_iff]
      exact ⟨.locked, rfl, rfl⟩

-- None of them asks the kernel to send its messages to nobody.
theorem Config.not_mem_requests {pid : UInt32} (hpid : pid ≠ 0) (accounts : Accounts)
    (config : Config) : Client.registrationRequest 0 ∉ config.requests accounts pid := by
  have hmask : ∀ status : Status, status.toBytes.uint32At 0 = status.mask := fun status =>
    Bytes.firstUInt32_ofUInt32_append status.mask _
  have hnamed : ∀ status : Status, status.toBytes.uint32At 12 = status.pid := fun status =>
    Bytes.firstUInt32_ofUInt32_append status.pid _
  unfold Config.requests
  intro hmem
  rcases List.mem_append.mp hmem with hmem | hmem
  · rcases List.mem_append.mp hmem with hmem | hmem
    · obtain ⟨watch, -, hwatch⟩ := List.mem_filterMap.mp hmem
      obtain ⟨rule, -, -, hrequest⟩ := WatchConfig.request?_eq_some_iff.mp hwatch
      have htype : Envelope.setStatusType = Envelope.addRuleType :=
        congrArg Request.messageType hrequest
      exact absurd htype (by decide)
    · obtain ⟨value, -, hvalue⟩ := Option.map_eq_some_iff.mp (Option.mem_toList.mp hmem)
      have hsame := congrArg (fun request => request.payload.uint32At 0) hvalue
      simp only [stateRequest, Client.registrationRequest, hmask] at hsame
      exact absurd hsame (by decide)
  · have hsame := congrArg (fun request => request.payload.uint32At 12) (List.mem_singleton.mp hmem)
    simp only [Client.registrationRequest, hnamed] at hsame
    exact hpid hsame.symm

namespace Startup

variable {σ : Type} [Channel σ] (memory : Channel.Memory σ) {client : Client σ}

theorem installWatch_asks (hvalid : client.sequence.Valid) (accounts : Accounts)
    (watch : WatchConfig) :
    client.Asks memory (watch.request? accounts).toList
      (installWatch accounts client watch).value.2 := by
  unfold WatchConfig.request?
  cases hrule : watch.rule accounts with
  | error error =>
    rw [installWatch_of_error hrule]
    exact .of_sent_eq hvalid rfl rfl
  | ok rule =>
    let request : Request := ⟨Envelope.addRuleType, rule.toBytes⟩
    have hasked : client.Asks memory (if request.Fits then [request] else [])
        (client.send Envelope.addRuleType rule.toBytes).value.2 := Client.send_asks memory hvalid request
    have hlist : (if request.Fits then some request else none).toList =
        if request.Fits then [request] else [] := by
      split
      · rfl
      · rfl
    rw [installWatch_of_rule hrule]
    rw [← hlist] at hasked
    exact hasked

theorem installWatches_asks (hvalid : client.sequence.Valid) (accounts : Accounts)
    (report : StartupReport) (watches : List WatchConfig) :
    client.Asks memory (watches.filterMap (·.request? accounts))
      (installWatches accounts client report watches).value.2 := by
  induction watches generalizing client report with
  | nil => exact .of_sent_eq hvalid rfl rfl
  | cons watch watches ih =>
    have hfirst := installWatch_asks memory hvalid accounts watch
    let next := if (installWatch accounts client watch).value.1
      then { report with installed := report.installed + 1 }
      else { report with failed := report.failed + 1 }
    have hboth : client.Asks memory _
        (installWatches accounts client report (watch :: watches)).value.2 :=
      hfirst.trans (ih hfirst.valid next)
    rw [List.filterMap_cons]
    cases hrequest : watch.request? accounts with
    | none =>
      rw [hrequest] at hboth
      exact hboth
    | some request =>
      rw [hrequest] at hboth
      exact hboth

theorem applyState_asks (hvalid : client.sequence.Valid) (state? : Option EnabledState) :
    client.Asks memory ((state?.map EnabledState.toUInt32).map Config.stateRequest).toList
      (applyState client state?).value := by
  cases state? with
  | none => exact .of_sent_eq hvalid rfl rfl
  | some state =>
    have hfits : (Config.stateRequest state.toUInt32).Fits := by
      unfold Request.Fits Config.stateRequest
      rw [Status.length_toBytes]
      decide
    have hasked := Client.send_asks memory hvalid (Config.stateRequest state.toUInt32)
    rw [if_pos hfits] at hasked
    rw [applyState_some]
    exact hasked

-- The client once everything but the registration has been asked for, and the report by then.
def prepare (accounts : Accounts) (client : Client σ) (config : Config) :
    StartupReport × Client σ :=
  let installed := (installWatches accounts client {} config.watches).value
  (installed.1, (applyState installed.2 config.enabledState?).value)

theorem prepare_asks {config : Config} (hvalid : client.sequence.Valid)
    (hconfig : config.validate = .ok ()) (accounts : Accounts) :
    client.Asks memory
      (config.watches.filterMap (·.request? accounts) ++
        (config.enabled.map Config.stateRequest).toList)
      (prepare accounts client config).2 := by
  have hinstalled := installWatches_asks memory hvalid accounts {} config.watches
  have happlied := applyState_asks memory hinstalled.valid config.enabledState?
  rw [Config.enabledState?_of_validate hconfig] at happlied
  exact hinstalled.trans happlied

theorem configureKernel_of_prepare (accounts : Accounts) (client : Client σ) (config : Config)
    (pid : UInt32) :
    let prepared := prepare accounts client config
    let registered := (prepared.2.setPid pid true).value
    (configureKernel accounts client config pid).value =
      (registered.1.map fun _ => prepared.1, registered.2) :=
  configureKernel_of_installed rfl pid

theorem configureKernel_asks {config : Config} (hvalid : client.sequence.Valid)
    (hconfig : config.validate = .ok ()) (accounts : Accounts) (pid : UInt32) :
    client.Asks memory (config.requests accounts pid)
      (configureKernel accounts client config pid).value.2 := by
  have hprepared := prepare_asks memory hvalid hconfig accounts
  rw [configureKernel_of_prepare]
  exact hprepared.trans (Client.setPid_asks memory hprepared.valid pid true)

-- Each watch is counted once.
theorem count_prepare (accounts : Accounts) (client : Client σ) (config : Config) :
    let report := (prepare accounts client config).1
    report.installed + report.failed = config.watches.length := by
  have hlength : ∀ (client : Client σ) (watches : List WatchConfig),
      (installEach accounts client watches).value.1.length = watches.length := by
    intro client watches
    induction watches generalizing client with
    | nil => rfl
    | cons watch watches ih =>
      simp only [installEach, Traced.value_bind, Traced.value_pure, List.length_cons, ih]
  simp only [prepare]
  rw [installWatches_eq_count, ← hlength client config.watches, Nat.zero_add, Nat.zero_add,
    List.count_true_add_count_false]

end Startup

end AuditCollector
