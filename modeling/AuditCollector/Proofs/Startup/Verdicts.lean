import AuditCollector.Proofs.Kernel.Requests
import AuditCollector.Proofs.Startup.Steps

namespace AuditCollector.Startup

open AuditCollector.Frame AuditCollector.Rule AnsweringKernel

variable {accounts : Accounts} {client : Client AnsweringKernel}

-- How long the request for a watch is, if there is a rule for the watch and it is not too
-- long.
def watchLength? (accounts : Accounts) (watch : WatchConfig) : Option Nat :=
  match watch.rule accounts with
  | .ok rule => requestLength? rule.toBytes.length
  | .error _ => none

def stateLengths : Option EnabledState → List (Option Nat)
  | none => []
  | some _ => [requestLength? Status.encodedLength]

-- How long the requests of a configuration are: the watches, the state if there is one, and
-- the registration.
def requestLengths (accounts : Accounts) (config : Config) : List (Option Nat) :=
  config.watches.map (watchLength? accounts) ++ stateLengths config.enabledState? ++
    [requestLength? Status.encodedLength]

-- Whether a request was answered, and with a code of zero.
def wentWell (answer? : Option Answer) : Bool := answer?.any (·.code == 0)

theorem installWatch_of_resting (hrest : client.channel.Resting) (watch : WatchConfig)
    {answer? : Option Answer} {standing : Standing}
    (hsubmit : client.channel.standing.submit client.channel.answers (watchLength? accounts watch) =
      (answer?, standing)) :
    ∃ client', (installWatch accounts client watch).value = (wentWell answer?, client') ∧
      client.channel.Continues client'.channel standing ∧
      (installWatch accounts client watch).InStep := by
  unfold watchLength? at hsubmit
  unfold installWatch
  cases hrule : watch.rule accounts with
  | error error =>
    rw [hrule] at hsubmit
    cases hsubmit
    exact ⟨client, rfl, ⟨hrest, rfl, rfl⟩,
      .bind (Traced.inStep_emit (by simp)) (Traced.inStep_pure _)⟩
  | ok rule =>
    rw [hrule] at hsubmit
    have hother : ∀ length number, isRegistration (Envelope.requestBytes length Envelope.addRuleType
        number rule.toBytes) = false := fun length number =>
      isRegistration_of_ne (by decide) length number rule.toBytes
    obtain ⟨result, client', hvalue, hwell, hcontinues, hstep⟩ :=
      Client.send_of_resting hrest hother hsubmit
    have hadd : client.addRule rule = client.send Envelope.addRuleType rule.toBytes := rfl
    refine ⟨client', ?_, hcontinues, ?_⟩
    · simp only [hadd, Traced.value_bind, hvalue]
      rw [wentWell, ← hwell]
      cases result with
      | error error => rfl
      | ok number => rfl
    · refine .bind hstep ?_
      rw [hadd, hvalue]
      cases result with
      | error error => exact .bind (Traced.inStep_emit (by simp)) (Traced.inStep_pure _)
      | ok number => exact .bind (Traced.inStep_emit (by simp)) (Traced.inStep_pure _)

-- By induction on the watches, each of which is judged by the answer that belongs to it.
theorem installWatches_of_resting (hrest : client.channel.Resting) (report : StartupReport)
    (watches : List WatchConfig) {answers : List (Option Answer)} {standing : Standing}
    (hsubmit : client.channel.standing.submitAll client.channel.answers
      (watches.map (watchLength? accounts)) = (answers, standing)) :
    ∃ client', (installWatches accounts client report watches).value =
        (⟨report.installed + answers.countP wentWell,
          report.failed + answers.countP fun answer? => !wentWell answer?⟩, client') ∧
      client.channel.Continues client'.channel standing ∧
      (installWatches accounts client report watches).InStep := by
  induction watches generalizing client report answers standing with
  | nil =>
    cases hsubmit
    exact ⟨client, rfl, ⟨hrest, rfl, rfl⟩, Traced.inStep_pure _⟩
  | cons watch watches ih =>
    rcases hfirst : client.channel.standing.submit client.channel.answers
      (watchLength? accounts watch) with ⟨answer?, between⟩
    rw [List.map_cons, Standing.submitAll, hfirst] at hsubmit
    obtain ⟨client', hvalue, hcontinues, hstep⟩ := installWatch_of_resting hrest watch hfirst
    rcases hrest' : between.submitAll client.channel.answers (watches.map (watchLength? accounts))
      with ⟨answers', standing'⟩
    simp only [hrest', Prod.mk.injEq] at hsubmit
    obtain ⟨rfl, rfl⟩ := hsubmit
    have hsubmit' : client'.channel.standing.submitAll client'.channel.answers
        (watches.map (watchLength? accounts)) = (answers', standing') := by
      rw [hcontinues.standing, hcontinues.answers, hrest']
    let report' := if wentWell answer? then { report with installed := report.installed + 1 }
      else { report with failed := report.failed + 1 }
    obtain ⟨client'', hvalue', hcontinues', hstep'⟩ := ih hcontinues.resting report' hsubmit'
    refine ⟨client'', ?_, hcontinues.trans hcontinues', ?_⟩
    · simp only [installWatches, Traced.value_bind, hvalue]
      refine hvalue'.trans ?_
      simp only [report', List.countP_cons]
      cases wentWell answer?
      · simp only [Bool.false_eq_true, if_false, Bool.not_false, if_true, Nat.add_zero, Nat.add_assoc,
          Nat.add_comm 1]
      · simp only [Bool.false_eq_true, if_false, Bool.not_true, if_true, Nat.add_zero, Nat.add_assoc,
          Nat.add_comm 1]
    · refine .bind hstep ?_
      rw [hvalue]
      exact hstep'

-- What becomes of the state is told and nothing more.
theorem applyState_of_resting (hrest : client.channel.Resting) (state? : Option EnabledState)
    {answers : List (Option Answer)} {standing : Standing}
    (hsubmit : client.channel.standing.submitAll client.channel.answers (stateLengths state?) =
      (answers, standing)) :
    client.channel.Continues (applyState client state?).value.channel standing ∧
      (applyState client state?).InStep := by
  cases state? with
  | none =>
    cases hsubmit
    exact ⟨⟨hrest, rfl, rfl⟩, Traced.inStep_pure _⟩
  | some state =>
    rcases hfirst : client.channel.standing.submit client.channel.answers
      (requestLength? Status.encodedLength) with ⟨answer?, standing'⟩
    simp only [stateLengths, Standing.submitAll, hfirst, Prod.mk.injEq] at hsubmit
    obtain ⟨-, rfl⟩ := hsubmit
    let status : Status := { mask := Status.Part.enabled.bit, enabled := state.toUInt32 }
    have hother : ∀ length number, isRegistration (Envelope.requestBytes length
        Envelope.setStatusType number status.toBytes) = false := by
      intro length number
      have hmask : status.mask = Status.Part.enabled.bit := rfl
      rw [isRegistration_requestBytes, hmask]
      decide
    obtain ⟨result, client', hvalue, -, hcontinues, hstep⟩ :=
      Client.send_of_resting hrest hother hfirst
    have hset : client.setEnabled state = client.send Envelope.setStatusType status.toBytes := rfl
    constructor
    · simp only [applyState, hset, Traced.value_bind, hvalue]
      cases result with
      | error error => exact hcontinues
      | ok number => exact hcontinues
    · refine .bind hstep ?_
      rw [hset, hvalue]
      cases result with
      | error error => exact .bind (Traced.inStep_emit (by simp)) (Traced.inStep_pure _)
      | ok number => exact .bind (Traced.inStep_emit (by simp)) (Traced.inStep_pure _)

section SetPid

variable {pid : UInt32}

-- A look for what follows the registration changes nothing that matters.
theorem discardFollowUp_spec (kernel : AnsweringKernel) :
    (Client.discardFollowUp kernel).value.requests = kernel.requests ∧
      (Client.discardFollowUp kernel).value.starved = kernel.starved ∧
      (Client.discardFollowUp kernel).InStep := by
  have hkept := receiveRepeatedly_nonBlocking kernel .consume
  rw [← Exchange.channel_receive kernel Envelope.zero] at hkept
  have hstep := Exchange.receive_inStep kernel Envelope.zero .nonBlocking .consume
  rw [Client.value_discardFollowUp]
  refine ⟨hkept.1, hkept.2, .bind hstep ?_⟩
  rcases (Exchange.receive kernel Envelope.zero .nonBlocking .consume).value
    with ⟨error | _ | reply, kernel', envelope⟩
  · exact .bind (Traced.inStep_emit (by simp)) (Traced.inStep_pure _)
  · exact .bind (Traced.inStep_pure _) (Traced.inStep_pure _)
  · exact .bind (Traced.inStep_emit (by simp)) (Traced.inStep_pure _)

theorem setPid_inStep
    (h : (client.send Envelope.setStatusType (Client.registration pid).toBytes).InStep) :
    (client.setPid pid true).InStep := by
  refine .bind h ?_
  rcases (client.send Envelope.setStatusType (Client.registration pid).toBytes).value
    with ⟨error | number, client'⟩
  · exact .bind (Traced.inStep_emit (by simp)) (Traced.inStep_pure _)
  · exact .bind (discardFollowUp_spec client'.channel).2.2 (Traced.inStep_pure _)

-- What comes of the registration is what its own answer says.
def Registered (answer? : Option Answer) (result : Except ExchangeError Unit)
    (requests : List Bytes) : Prop :=
  match answer? with
  | some answer => ∃ registration, requests.getLast? = some registration ∧
      isRegistration registration = true ∧
      result = if answer.code = 0 then .ok ()
        else .error (.kernel (registration.uint32At 8) answer.error)
  | none => ∃ error, result = .error error ∧ ∀ number source, error ≠ .kernel number source

theorem setPid_of_resting (hrest : client.channel.Resting) (pid : UInt32)
    {answer? : Option Answer} {standing : Standing}
    (hsubmit : client.channel.standing.submit client.channel.answers
      (requestLength? Status.encodedLength) = (answer?, standing)) :
    Registered answer? (client.setPid pid true).value.1
        (client.setPid pid true).value.2.channel.requests ∧
      (client.setPid pid true).value.2.channel.starved = false ∧
      (client.setPid pid true).InStep := by
  have hlength : requestLength? (Client.registration pid).toBytes.length = some 56 := by
    rw [Status.length_toBytes]
    rfl
  cases answer? with
  | none =>
    obtain ⟨error, hvalue, -, hother, hstep⟩ := @Client.send_of_refused client
      Envelope.setStatusType (Client.registration pid).toBytes _ _ hlength hsubmit
    rw [Client.setPid_of_error hvalue]
    exact ⟨⟨error, rfl, hother⟩, hrest.fed, setPid_inStep hstep⟩
  | some answer =>
    obtain ⟨receives, arrived, arrivals, -, -, -, hvalue, hstep⟩ := @Client.send_of_answered client
      Envelope.setStatusType (Client.registration pid).toBytes _ _ answer hrest hlength hsubmit
    let request := Envelope.requestBytes 56 Envelope.setStatusType client.sequence.advance.value.1
      (Client.registration pid).toBytes
    have hregistration : isRegistration request = true := by
      have hmask : (Client.registration pid).mask = Status.Part.pid.bit := rfl
      rw [isRegistration_requestBytes, hmask]
      decide
    have hnumber : Bytes.uint32At request 8 = client.sequence.advance.value.1 :=
      sequence_requestBytes _ _ _ _
    have hlast : (client.channel.answer request).requests.getLast? = some request := by
      rw [AnsweringKernel.answer, List.getLast?_concat]
    by_cases hcode : answer.code = 0
    · rw [if_pos hcode] at hvalue
      rw [Client.setPid_of_ok hvalue]
      obtain ⟨hrequests, hstarved, -⟩ := discardFollowUp_spec { client.channel.answer request with
        sends := standing.sends, receives, arrivals, queue := arrived }
      refine ⟨⟨request, ?_, hregistration, ?_⟩, hstarved.trans hrest.fed, setPid_inStep hstep⟩
      · exact (congrArg List.getLast? hrequests).trans hlast
      · rw [if_pos hcode]
    · rw [if_neg hcode] at hvalue
      rw [Client.setPid_of_error hvalue]
      refine ⟨⟨request, hlast, hregistration, ?_⟩, hrest.fed, setPid_inStep hstep⟩
      rw [if_neg hcode, hnumber]

end SetPid

-- The answers of a whole configuration are those of its parts, one after the other.
theorem submitAll_requestLengths {answers : Nat → Answer} {standing standing' standing'' : Standing}
    {config : Config} {watchAnswers stateAnswers : List (Option Answer)} {answer? : Option Answer}
    (hwatches : standing.submitAll answers (config.watches.map (watchLength? accounts)) =
      (watchAnswers, standing'))
    (hstate : standing'.submitAll answers (stateLengths config.enabledState?) =
      (stateAnswers, standing''))
    (hregistration : (standing''.submit answers (requestLength? Status.encodedLength)).1 = answer?) :
    (standing.submitAll answers (requestLengths accounts config)).1 =
        watchAnswers ++ stateAnswers ++ [answer?] ∧
      watchAnswers.length = config.watches.length := by
  constructor
  · rw [requestLengths, Standing.submitAll_append, Standing.submitAll_append]
    simp only [hwatches, hstate, Standing.submitAll, hregistration]
  · have hlength := Standing.length_submitAll answers standing
      (config.watches.map (watchLength? accounts))
    rwa [hwatches, List.length_map] at hlength

-- The requests of a configuration, part by part.
theorem exists_submitAll_requestLengths (standing : Standing) (answers : Nat → Answer)
    (accounts : Accounts) (config : Config) :
    ∃ watchOwn standing' stateOwn standing'' own? standing''',
      standing.submitAll answers (config.watches.map (watchLength? accounts)) = (watchOwn, standing') ∧
      standing'.submitAll answers (stateLengths config.enabledState?) = (stateOwn, standing'') ∧
      standing''.submit answers (requestLength? Status.encodedLength) = (own?, standing''') ∧
      (standing.submitAll answers (requestLengths accounts config)).1 =
        watchOwn ++ stateOwn ++ [own?] ∧
      watchOwn.length = config.watches.length := by
  refine ⟨_, _, _, _, _, _, rfl, rfl, rfl, ?_⟩
  exact submitAll_requestLengths rfl rfl rfl

theorem configureKernel_inStep {report : StartupReport} {client' : Client AnsweringKernel}
    {config : Config} {pid : UInt32}
    (h : (installWatches accounts client {} config.watches).value = (report, client'))
    (hwatches : (installWatches accounts client {} config.watches).InStep)
    (hstate : (applyState client' config.enabledState?).InStep)
    (hregistration : ((applyState client' config.enabledState?).value.setPid pid true).InStep) :
    (configureKernel accounts client config pid).InStep := by
  refine .bind hwatches ?_
  rw [h]
  refine .bind hstate (.bind hregistration ?_)
  rcases ((applyState client' config.enabledState?).value.setPid pid true).value
    with ⟨error | _, client''⟩
  · exact Traced.inStep_pure _
  · exact .bind (Traced.inStep_emit (by simp)) (Traced.inStep_pure _)

-- Each wait for an answer sees the one that belongs to its own request, whatever the
-- kernel answers and whatever is sent in vain: a watch counts as installed if there is a
-- rule for it, its request was accepted whole and its own answer says so, and all depends
-- on the answer to the registration. No wait is forever, and no answer comes out of step.
theorem configureKernel_own_answers {kernel : AnsweringKernel} (hrest : kernel.Resting)
    (accounts : Accounts) (sequence : SequenceCounter) (config : Config) (pid : UInt32) :
    let own := (kernel.standing.submitAll kernel.answers (requestLengths accounts config)).1
    let watches := own.take config.watches.length
    let report : StartupReport :=
      ⟨watches.countP wentWell, watches.countP fun answer? => !wentWell answer?⟩
    let run := configureKernel accounts ⟨kernel, sequence⟩ config pid
    (installWatches accounts ⟨kernel, sequence⟩ {} config.watches).value.1 = report ∧
      (∃ answer? result, own.getLast? = some answer? ∧
        Registered answer? result run.value.2.channel.requests ∧
        run.value.1 = result.map fun _ => report) ∧
      run.value.2.channel.starved = false ∧ run.InStep := by
  rcases hwatches : kernel.standing.submitAll kernel.answers
    (config.watches.map (watchLength? accounts)) with ⟨watchAnswers, standing⟩
  rcases hstate : standing.submitAll kernel.answers (stateLengths config.enabledState?)
    with ⟨stateAnswers, standing'⟩
  rcases hregistration : standing'.submit kernel.answers (requestLength? Status.encodedLength)
    with ⟨answer?, standing''⟩
  obtain ⟨hown, hlength⟩ :=
    submitAll_requestLengths hwatches hstate (congrArg Prod.fst hregistration)
  intro own watches report run
  have hreport : report = ⟨0 + watchAnswers.countP wentWell,
      0 + watchAnswers.countP fun answer? => !wentWell answer?⟩ := by
    simp only [report, watches, own, hown, Nat.zero_add, List.append_assoc, ← hlength,
      List.take_left]
  have hlast : own.getLast? = some answer? := by
    simp only [own, hown, List.getLast?_concat]
  obtain ⟨client, hinstalled, hcontinues, hstep⟩ :=
    @installWatches_of_resting accounts ⟨kernel, sequence⟩ hrest {} config.watches _ _ hwatches
  rw [← hreport] at hinstalled
  rw [← hcontinues.standing, ← hcontinues.answers] at hstate
  obtain ⟨hcontinues', hstep'⟩ :=
    applyState_of_resting hcontinues.resting config.enabledState? hstate
  rw [← hcontinues'.standing, ← (hcontinues.trans hcontinues').answers] at hregistration
  obtain ⟨hregistered, hstarved, hstep''⟩ := setPid_of_resting hcontinues'.resting pid hregistration
  have hrun := configureKernel_of_installed hinstalled pid
  refine ⟨by rw [hinstalled], ⟨answer?, _, hlast, ?_, congrArg Prod.fst hrun⟩, ?_,
    configureKernel_inStep hinstalled hstep hstep' hstep''⟩
  · rw [congrArg Prod.snd hrun]
    exact hregistered
  · rw [congrArg Prod.snd hrun]
    exact hstarved

-- The first of two watches is refused, the second one is installed after interruptions.
theorem configureKernel_own_answers_of_refusal :
    let kernel : AnsweringKernel := {
      answers := fun n => { code := if n = 0 then -22 else 0 }
      sends := [.fail .interrupted]
      receives := [none, some .interrupted, none, some .wouldBlock]
      arrivals := [[{ frame := [1, 2, 3] }]] }
    let accounts : Accounts := ⟨fun _ => none, fun _ => none⟩
    let config : Config := { watches := [{ path := "/bad" }, { path := "/good" }] }
    let run := configureKernel accounts ⟨kernel, {}⟩ config 7
    kernel.Resting ∧ run.value.1 = .ok ⟨1, 1⟩ ∧ run.value.2.channel.starved = false ∧ run.InStep := by
  intro kernel accounts config
  have hrest : kernel.Resting := by
    refine ⟨rfl, rfl, ?_, rfl⟩
    intro error h
    have hplanned : error = .interrupted ∨ error = .wouldBlock := by simpa [kernel] using h
    rcases hplanned with rfl | rfl
    · exact .inl rfl
    · exact .inr ⟨rfl, rfl⟩
  have hown : (kernel.standing.submitAll kernel.answers (requestLengths accounts config)).1 =
      [some { code := -22 }, some { code := 0 }, some { code := 0 }] := by
    have hlengths : requestLengths accounts config = [some 1060, some 1064, some 56] := by
      decide +kernel
    rw [hlengths]
    rfl
  have h := configureKernel_own_answers hrest accounts {} config 7
  rw [hown] at h
  obtain ⟨-, ⟨answer?, result, hlast, hregistered, hresult⟩, hstarved, hstep⟩ := h
  obtain rfl : some { code := 0 } = answer? := Option.some.inj hlast
  obtain ⟨registration, -, -, hresult'⟩ := hregistered
  rw [if_pos rfl] at hresult'
  rw [hresult'] at hresult
  exact ⟨hrest, hresult, hstarved, hstep⟩

end AuditCollector.Startup
