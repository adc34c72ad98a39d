import AuditCollector.Proofs.Kernel.Backlog
import AuditCollector.Proofs.Startup.Verdicts

namespace AuditCollector.Startup

open AuditCollector.Frame AnsweringKernel

variable {accounts : Rule.Accounts} {client : Client AnsweringKernel} {answers : Nat → Answer}
  {standing standing' : Standing} {backlog backlog' : Backlog}

theorem installWatch_of_backlog (h : client.channel.At answers standing backlog) (watch : WatchConfig)
    {own? heard? : Option Answer}
    (hsubmit : standing.submit answers (watchLength? accounts watch) = (own?, standing'))
    (hhear : backlog.hear own? = (heard?, backlog')) :
    ∃ client', (installWatch accounts client watch).value = (wentWell heard?, client') ∧
      client'.channel.At answers standing' backlog' := by
  unfold watchLength? at hsubmit
  cases hrule : watch.rule accounts with
  | error error =>
    rw [hrule] at hsubmit
    cases hsubmit
    cases hhear
    exact ⟨client, installWatch_of_error hrule, h⟩
  | ok rule =>
    rw [hrule] at hsubmit
    obtain ⟨result, client', hvalue, hwell, hleft⟩ :=
      @Client.send_of_backlog Envelope.addRuleType _ _ _ _ _ _ _ _ _ h hsubmit hhear
    refine ⟨client', ?_, hleft⟩
    rw [installWatch_of_rule hrule, hvalue, wentWell, ← hwell]

-- By induction on the watches, each of which is judged by what it hears.
theorem installEach_of_backlog (h : client.channel.At answers standing backlog)
    (watches : List WatchConfig) {own heard : List (Option Answer)}
    (hsubmit : standing.submitAll answers (watches.map (watchLength? accounts)) = (own, standing'))
    (hhear : backlog.hearAll own = (heard, backlog')) :
    ∃ client', (installEach accounts client watches).value = (heard.map wentWell, client') ∧
      client'.channel.At answers standing' backlog' := by
  induction watches generalizing client standing backlog own heard with
  | nil =>
    cases hsubmit
    cases hhear
    exact ⟨client, rfl, h⟩
  | cons watch watches ih =>
    rcases hfirst : standing.submit answers (watchLength? accounts watch) with ⟨own?, between⟩
    rcases hrest : between.submitAll answers (watches.map (watchLength? accounts))
      with ⟨own', standing''⟩
    simp only [List.map_cons, Standing.submitAll, hfirst, hrest, Prod.mk.injEq] at hsubmit
    obtain ⟨rfl, rfl⟩ := hsubmit
    rcases hhear' : backlog.hear own? with ⟨heard?, left⟩
    rcases hhearRest : left.hearAll own' with ⟨heard', backlog''⟩
    simp only [Backlog.hearAll, hhear', hhearRest, Prod.mk.injEq] at hhear
    obtain ⟨rfl, rfl⟩ := hhear
    obtain ⟨client', hvalue, hleft⟩ := installWatch_of_backlog h watch hfirst hhear'
    obtain ⟨client'', hvalue', hleft'⟩ := ih hleft hrest hhearRest
    refine ⟨client'', ?_, hleft'⟩
    simp only [installEach, Traced.value_bind, hvalue, hvalue', Traced.value_pure, List.map_cons]

theorem applyState_of_backlog (h : client.channel.At answers standing backlog)
    (state? : Option EnabledState) {own heard : List (Option Answer)}
    (hsubmit : standing.submitAll answers (stateLengths state?) = (own, standing'))
    (hhear : backlog.hearAll own = (heard, backlog')) :
    (applyState client state?).value.channel.At answers standing' backlog' := by
  cases state? with
  | none =>
    cases hsubmit
    cases hhear
    exact h
  | some state =>
    rcases hfirst : standing.submit answers (requestLength? Status.encodedLength)
      with ⟨own?, standing''⟩
    simp only [stateLengths, Standing.submitAll, hfirst, Prod.mk.injEq] at hsubmit
    obtain ⟨rfl, rfl⟩ := hsubmit
    rcases hfirst' : backlog.hear own? with ⟨heard?, backlog''⟩
    simp only [Backlog.hearAll, hfirst', Prod.mk.injEq] at hhear
    obtain ⟨rfl, rfl⟩ := hhear
    rw [← Status.length_toBytes (stateRequest state)] at hfirst
    obtain ⟨result, client', hvalue, -, hleft⟩ :=
      @Client.send_of_backlog Envelope.setStatusType _ _ _ _ _ _ _ _ _ h hfirst hfirst'
    rw [applyState_some, hvalue]
    exact hleft

theorem setPid_of_backlog (h : client.channel.At answers standing backlog) (pid : UInt32)
    {own? heard? : Option Answer}
    (hsubmit : standing.submit answers (requestLength? Status.encodedLength) = (own?, standing'))
    (hhear : backlog.hear own? = (heard?, backlog')) :
    (client.setPid pid true).value.1.isOk = wentWell heard? := by
  rw [← Status.length_toBytes (Client.registration pid)] at hsubmit
  obtain ⟨result, client', hvalue, hwell, -⟩ :=
    @Client.send_of_backlog Envelope.setStatusType _ _ _ _ _ _ _ _ _ h hsubmit hhear
  rw [wentWell, ← hwell]
  cases result with
  | error error =>
    rw [Client.setPid_of_error hvalue]
    rfl
  | ok number =>
    rw [Client.setPid_of_ok hvalue]
    rfl

-- With a backlog it is what they hear that decides, and not what was said to them.
theorem configureKernel_of_backlog {kernel : AnsweringKernel} (h : kernel.At answers standing backlog)
    (accounts : Rule.Accounts) (sequence : SequenceCounter) (config : Config) (pid : UInt32) :
    let own := (standing.submitAll answers (requestLengths accounts config)).1
    let heard := (backlog.hearAll own).1
    let installed := (installEach accounts ⟨kernel, sequence⟩ config.watches).value.1
    installed = (heard.take config.watches.length).map wentWell ∧
      (configureKernel accounts ⟨kernel, sequence⟩ config pid).value.1.toOption =
        if wentWell heard.getLast?.join then some ⟨installed.count true, installed.count false⟩
        else none := by
  obtain ⟨watchOwn, standing', stateOwn, standing'', own?, standing''', hwatches, hstate, hregistration,
    hown, hlength⟩ := exists_submitAll_requestLengths standing answers accounts config
  rcases hheard : backlog.hearAll watchOwn with ⟨watchHeard, backlog'⟩
  rcases hheard' : backlog'.hearAll stateOwn with ⟨stateHeard, backlog''⟩
  rcases hheard'' : backlog''.hear own? with ⟨heard?, backlog'''⟩
  have hall : (backlog.hearAll (watchOwn ++ stateOwn ++ [own?])).1 =
      watchHeard ++ stateHeard ++ [heard?] := by
    simp only [Backlog.hearAll_append, hheard, hheard', Backlog.hearAll, hheard'']
  have hcount : config.watches.length = watchHeard.length := by
    rw [← hlength, ← Backlog.length_hearAll backlog watchOwn, hheard]
  intro own heard installed
  obtain ⟨client', hinstalled, hleft⟩ :=
    @installEach_of_backlog accounts ⟨kernel, sequence⟩ _ _ _ _ _ h config.watches _ _ hwatches hheard
  have hleft' := applyState_of_backlog hleft config.enabledState? hstate hheard'
  have hregistered := setPid_of_backlog hleft' pid hregistration hheard''
  have hreport := installWatches_eq_count accounts ⟨kernel, sequence⟩ {} config.watches
  rw [Nat.zero_add, Nat.zero_add, hinstalled] at hreport
  have hrun := congrArg Prod.fst (configureKernel_of_installed hreport pid)
  have hverdicts : installed = watchHeard.map wentWell := congrArg Prod.fst hinstalled
  have hheardAll : heard = watchHeard ++ stateHeard ++ [heard?] := by
    simp only [heard, own, hown, hall]
  refine ⟨?_, ?_⟩
  · rw [hverdicts, hheardAll, hcount, List.append_assoc, List.take_left]
  · rw [hrun, hheardAll, List.getLast?_concat, Option.join_some, ← hregistered, hverdicts]
    cases ((applyState client' config.enabledState?).value.setPid pid true).value.1 with
    | error error => rfl
    | ok _ => rfl

-- By induction on the requests. Whoever comes next has to be told the same as the one before.
theorem map_wentWell_hearLate (missed : Answer) (rest : List (Option Answer)) :
    (Backlog.hearLate missed rest).map wentWell = rest.map wentWell ↔
      ∀ later, some later ∈ rest → (later.code = 0 ↔ missed.code = 0) := by
  induction rest generalizing missed with
  | nil => simp [Backlog.hearLate]
  | cons own? rest ih =>
    cases own? with
    | none => simp [Backlog.hearLate, ih]
    | some answer =>
      have hsame : wentWell (some missed) = wentWell (some answer) ↔
          (answer.code = 0 ↔ missed.code = 0) := by
        rw [Bool.eq_iff_iff]
        simp only [wentWell, Option.any_some, beq_iff_eq]
        exact Iff.comm
      simp only [Backlog.hearLate, List.map_cons, List.cons.injEq, hsame, ih, List.mem_cons,
        Option.some.injEq]
      constructor
      · rintro ⟨hfirst, hrest⟩ later (rfl | hlater)
        · exact hfirst
        · exact (hrest later hlater).trans hfirst
      · intro hall
        have hfirst := hall answer (.inl rfl)
        exact ⟨hfirst, fun later hlater => (hall later (.inr hlater)).trans hfirst.symm⟩

-- Two lists are the same but for one element if they go on in the same way after it.
private theorem getElem?_eq_elsewhere_iff {α : Type} (first : List α) (x y : α) (xs ys : List α) :
    (∀ i, i ≠ first.length → (first ++ x :: xs)[i]? = (first ++ y :: ys)[i]?) ↔ xs = ys := by
  constructor
  · intro h
    apply List.ext_getElem?
    intro i
    have hi := h (first.length + (i + 1)) (by omega)
    rw [List.getElem?_append_right (by omega), List.getElem?_append_right (by omega),
      Nat.add_sub_cancel_left] at hi
    exact hi
  · rintro rfl i hi
    by_cases hlt : i < first.length
    · rw [List.getElem?_append_left hlt, List.getElem?_append_left hlt]
    · obtain ⟨k, rfl⟩ : ∃ k, i = first.length + (k + 1) := ⟨i - first.length - 1, by omega⟩
      rw [List.getElem?_append_right (by omega), List.getElem?_append_right (by omega),
        Nat.add_sub_cancel_left]
      rfl

section Failure

variable {before after : List (Option IoError)} {error : IoError} {missed : Answer}
  {first rest : List (Option Answer)}

-- If the wait for one answer fails, that answer is left over, and from then on every request
-- is judged by what was said to the one before. The requests other than the one that failed
-- get verdicts of their own only if all that is said later agrees with what was missed.
theorem configureKernel_hears_late {kernel : AnsweringKernel} (hqueue : kernel.queue = [])
    (hquiet : kernel.arrivals = []) (hreceives : kernel.receives = before ++ some error :: after)
    (hbefore : ∀ error, some error ∈ before → ReceiveMode.blocking.retries error)
    (hafter : ∀ error, some error ∈ after → ReceiveMode.blocking.retries error)
    (hfatal : ¬ReceiveMode.blocking.retries error) {accounts : Rule.Accounts} {config : Config}
    (hown : (kernel.standing.submitAll kernel.answers (requestLengths accounts config)).1 =
      first ++ some missed :: rest)
    (hfirst : first.countP Option.isSome = before.countP Option.isNone / 2)
    (sequence : SequenceCounter) (pid : UInt32) :
    let own := first ++ some missed :: rest
    let heard := first ++ none :: Backlog.hearLate missed rest
    let installed := (installEach accounts ⟨kernel, sequence⟩ config.watches).value.1
    let run := configureKernel accounts ⟨kernel, sequence⟩ config pid
    installed = (heard.take config.watches.length).map wentWell ∧
      run.value.1.toOption =
        (if wentWell heard.getLast?.join then some ⟨installed.count true, installed.count false⟩
        else none) ∧
      ((∀ i, i ≠ first.length → heard[i]?.map wentWell = own[i]?.map wentWell) ↔
        ∀ later, some later ∈ rest → (later.code = 0 ↔ missed.code = 0)) := by
  have hstart : kernel.At kernel.answers kernel.standing ⟨before ++ some error :: after, []⟩ :=
    ⟨rfl, rfl, hquiet, hreceives, by rw [hqueue]; exact .nil⟩
  have hheard := Backlog.hearAll_of_failure hbefore hafter hfatal missed rest hfirst
  obtain ⟨hinstalled, hresult⟩ := configureKernel_of_backlog hstart accounts sequence config pid
  rw [hown, hheard] at hinstalled hresult
  intro own heard installed run
  refine ⟨hinstalled, hresult, ?_⟩
  -- what is heard and what was said agree up to the failure, so only what comes later counts
  have hlength : (first.map wentWell).length = first.length := List.length_map wentWell
  simp only [own, heard, ← List.getElem?_map, List.map_append, List.map_cons]
  rw [← hlength, getElem?_eq_elsewhere_iff, map_wentWell_hearLate]

-- The second of three answers is missed: the third watch is refused in its place.
theorem configureKernel_hears_late_of_three :
    let kernel : AnsweringKernel := {
      answers := fun n => { code := if n = 1 then -17 else 0 }
      receives := [none, some .interrupted, none, none, some (.os 105)] }
    let accounts : Rule.Accounts := ⟨fun _ => none, fun _ => none⟩
    let config : Config :=
      { watches := [{ path := "/first" }, { path := "/second" }, { path := "/third" }] }
    (installEach accounts ⟨kernel, {}⟩ config.watches).value.1 = [true, false, false] ∧
      (configureKernel accounts ⟨kernel, {}⟩ config 7).value.1.toOption = some ⟨1, 2⟩ := by
  intro kernel accounts config
  have hown : (kernel.standing.submitAll kernel.answers (requestLengths accounts config)).1 =
      [some { code := 0 }] ++ some { code := -17 } :: [some { code := 0 }, some { code := 0 }] := by
    have hlengths : requestLengths accounts config = [some 1064, some 1064, some 1064, some 56] := by
      decide +kernel
    rw [hlengths]
    rfl
  have hbefore : ∀ error, some error ∈ [none, some .interrupted, none, none] →
      ReceiveMode.blocking.retries error := by
    intro error h
    exact .inl (by simpa using h)
  have hreceives : kernel.receives =
      [none, some .interrupted, none, none] ++ some (.os 105) :: [] := rfl
  obtain ⟨hinstalled, hresult, -⟩ := configureKernel_hears_late rfl rfl hreceives hbefore (by simp)
    (by decide) hown rfl {} 7
  have hverdicts := hinstalled.trans (by decide : _ = [true, false, false])
  rw [hverdicts] at hresult
  exact ⟨hverdicts, hresult⟩

-- The kernel refuses the first watch and installs the second. No buffers are left for the
-- first answer, and so the second watch is judged by it and counts as refused too.
theorem configureKernel_fails_installed_watch :
    let kernel : AnsweringKernel := {
      answers := fun n => { code := if n = 0 then -1 else 0 }
      receives := [some (.os 105)] }
    let accounts : Rule.Accounts := ⟨fun _ => none, fun _ => none⟩
    let config : Config := { watches := [{ path := "/first" }, { path := "/second" }] }
    (kernel.standing.submitAll kernel.answers (requestLengths accounts config)).1 =
        [some { code := -1 }, some { code := 0 }, some { code := 0 }] ∧
      (installEach accounts ⟨kernel, {}⟩ config.watches).value.1 = [false, false] ∧
      (configureKernel accounts ⟨kernel, {}⟩ config 7).value.1.toOption = some ⟨0, 2⟩ := by
  intro kernel accounts config
  have hown : (kernel.standing.submitAll kernel.answers (requestLengths accounts config)).1 =
      [some { code := -1 }, some { code := 0 }, some { code := 0 }] := by
    have hlengths : requestLengths accounts config = [some 1064, some 1064, some 56] := by
      decide +kernel
    rw [hlengths]
    rfl
  have hstart : kernel.At kernel.answers kernel.standing ⟨[some (.os 105)], []⟩ :=
    ⟨rfl, rfl, rfl, rfl, .nil⟩
  obtain ⟨hinstalled, hresult⟩ := configureKernel_of_backlog hstart accounts {} config 7
  rw [hown] at hinstalled hresult
  have hverdicts := hinstalled.trans (by decide : _ = [false, false])
  rw [hverdicts] at hresult
  exact ⟨hown, hverdicts, hresult⟩

end Failure

end AuditCollector.Startup
