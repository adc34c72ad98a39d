import AuditCollector.Proofs.EventLoop.States

namespace AuditCollector

open AuditCollector.Frame AuditCollector.Scripted

-- What the files of a log can hold once it was given so much, in several goes.
inductive Held.Gains : Held → List Bytes → Held → Prop where
  | nil (held : Held) : Gains held [] held
  | cons {held held' held'' : Held} {bytes : Bytes} {more : List Bytes}
    (hturns : (held.plus bytes).Turns held') (hgains : Gains held' more held'') :
    Gains held (bytes :: more) held''

namespace EventLoop

section Receipts

variable {σ φ : Type} [Channel σ] [FileSystem φ] {loop : EventLoop σ φ} {receipt : Log.Receipt}

-- The receipt for what the next turn puts into the log, if it receives anything for it.
def receipt? (loop : EventLoop σ φ) : Option Log.Receipt :=
  loop.payload?.map (loop.log.receipt loop.files)

-- The receipts of all turns, in order.
def receipts (loop : EventLoop σ φ) : List Log.Receipt := loop.states.filterMap receipt?

theorem payload?_of_receipt? (h : loop.receipt? = some receipt) :
    loop.payload? = some receipt.record := by
  obtain ⟨record, hpayload, rfl⟩ := Option.map_eq_some_iff.mp h
  rw [hpayload, Log.record_receipt]

theorem receipt?_result (h : loop.receipt? = some receipt) :
    (receipt.result = .ok () → receipt.Whole) ∧
      (receipt.Disowned → ∃ path source, receipt.result = .error (.rotationFailed path source)) := by
  obtain ⟨record, -, rfl⟩ := Option.map_eq_some_iff.mp h
  exact Log.receipt_result loop.log loop.files record

-- A turn records something exactly if its receipt says that all went well.
theorem turn_recorded_iff (loop : EventLoop σ φ) :
    loop.turn.value.1 = .recorded ↔
      ∃ receipt, loop.receipt? = some receipt ∧ receipt.result = .ok () := by
  have hturn := turn_of_payload loop
  unfold receipt?
  cases hpayload : loop.payload? with
  | none =>
    rw [hpayload] at hturn
    simp [hturn.1]
  | some record =>
    rw [hpayload] at hturn
    simp only [Option.map_some, Option.some.injEq, exists_eq_left', Log.result_receipt, hturn.1]
    cases (loop.log.append loop.files record).value.1 with
    | error error => simp [Except.isOk, Except.toBool]
    | ok _ => simp [Except.isOk, Except.toBool]

theorem takeTurns_receipts (loop : EventLoop σ φ) :
    loop.takeTurns.value.1 = loop.receipts.countP fun receipt => receipt.result = .ok () := by
  rw [takeTurns_count, receipts, List.countP_filterMap]
  refine List.countP_congr fun state _ => ?_
  rw [decide_eq_true_eq, turn_recorded_iff]
  cases state.receipt? with
  | none => simp
  | some receipt => simp

-- What is there as a whole was recorded, unless it is disowned.
theorem takeTurns_whole (loop : EventLoop σ φ) :
    loop.takeTurns.value.1 + loop.receipts.countP (fun receipt => receipt.Disowned) =
      loop.receipts.countP fun receipt => receipt.Whole := by
  have hwhole : ∀ receipt ∈ loop.receipts, receipt.result = .ok () → receipt.Whole := by
    intro receipt hreceipt
    obtain ⟨state, -, hstate⟩ := List.mem_filterMap.mp hreceipt
    exact (receipt?_result hstate).1
  rw [takeTurns_receipts]
  generalize loop.receipts = receipts at hwhole ⊢
  induction receipts with
  | nil => rfl
  | cons receipt receipts ih =>
    have hrest := ih fun receipt hreceipt => hwhole receipt (List.mem_cons_of_mem _ hreceipt)
    have hfirst := hwhole receipt (List.mem_cons_self ..)
    have hone : (if decide (receipt.result = .ok ()) = true then 1 else 0) +
        (if decide receipt.Disowned = true then 1 else 0) =
          if decide receipt.Whole = true then 1 else 0 := by
      by_cases hok : receipt.result = .ok ()
      · simp [Log.Receipt.Disowned, hok, hfirst hok]
      · simp [Log.Receipt.Disowned, hok]
    rw [List.countP_cons, List.countP_cons, List.countP_cons]
    omega

end Receipts

variable {σ : Type} [Channel σ] {loop : EventLoop σ FaultyDisk} {activeAt rotatedAt : Place}

def held (loop : EventLoop σ FaultyDisk) (activeAt rotatedAt : Place) : Held :=
  loop.files.disk.held activeAt rotatedAt

def Keeps (loop : EventLoop σ FaultyDisk) (activeAt rotatedAt : Place) : Prop :=
  loop.log.Keeps loop.files.disk activeAt rotatedAt

-- What the next turn says about the log. If it says that something was recorded, the whole
-- record is there. Otherwise it tells nothing about a record that it received.
structure Tells (loop : EventLoop σ FaultyDisk) (activeAt rotatedAt : Place) : Prop where
  interrupted : loop.turn.value.1 = .interrupted →
    loop.turn.value.2.held activeAt rotatedAt = loop.held activeAt rotatedAt
  recorded : loop.turn.value.1 = .recorded → ∃ record newline, loop.payload? = some record ∧
    newline <+: Log.separator ∧
      ((loop.held activeAt rotatedAt).plus (record ++ newline)).Turns
        (loop.turn.value.2.held activeAt rotatedAt)
  skipped : loop.turn.value.1 = .skipped →
    (loop.receipt? = none ∧
      loop.turn.value.2.held activeAt rotatedAt = loop.held activeAt rotatedAt) ∨
    ∃ receipt, loop.receipt? = some receipt ∧ receipt.result ≠ .ok () ∧
      ((loop.held activeAt rotatedAt).plus receipt.added).Turns
        (loop.turn.value.2.held activeAt rotatedAt)

theorem turn_keeps (h : loop.Keeps activeAt rotatedAt) :
    loop.turn.value.2.Keeps activeAt rotatedAt ∧
      match loop.receipt? with
      | none => loop.turn.value.1 ≠ .recorded ∧
          loop.turn.value.2.held activeAt rotatedAt = loop.held activeAt rotatedAt
      | some receipt =>
        loop.turn.value.1 ≠ .interrupted ∧ ((loop.held activeAt rotatedAt).plus receipt.added).Turns
          (loop.turn.value.2.held activeAt rotatedAt) := by
  have hturn := turn_of_payload loop
  unfold receipt? Keeps held
  cases hpayload : loop.payload? with
  | none =>
    rw [hpayload] at hturn
    obtain ⟨hne, hsame⟩ := hturn
    obtain ⟨hlog, hfiles⟩ := Prod.mk.inj hsame
    rw [hlog, hfiles]
    exact ⟨h, hne, rfl⟩
  | some record =>
    rw [hpayload] at hturn
    obtain ⟨hresult, happended⟩ := hturn
    obtain ⟨hlog, hfiles⟩ := Prod.mk.inj happended
    obtain ⟨hkeeps, hturns⟩ := Log.append_keeps h record
    rw [hlog, hfiles]
    refine ⟨hkeeps, ?_, hturns⟩
    rw [hresult]
    split
    · nofun
    · nofun

theorem turn_tells (h : loop.Keeps activeAt rotatedAt) : loop.Tells activeAt rotatedAt := by
  have hturn := (turn_keeps h).2
  cases hreceipt : loop.receipt? with
  | none =>
    rw [hreceipt] at hturn
    obtain ⟨hne, hsame⟩ := hturn
    exact ⟨fun _ => hsame, fun hrecorded => absurd hrecorded hne, fun _ => .inl ⟨hreceipt, hsame⟩⟩
  | some receipt =>
    rw [hreceipt] at hturn
    obtain ⟨hwaited, hturns⟩ := hturn
    refine ⟨fun hinterrupted => absurd hinterrupted hwaited, ?_, ?_⟩
    · intro hrecorded
      obtain ⟨receipt', hsame, hok⟩ := (turn_recorded_iff loop).mp hrecorded
      obtain rfl : receipt = receipt' := Option.some.inj (hreceipt.symm.trans hsame)
      rw [Log.Receipt.added_of_whole ((receipt?_result hreceipt).1 hok)] at hturns
      exact ⟨receipt.record, _, payload?_of_receipt? hreceipt, List.take_prefix .., hturns⟩
    · intro hskipped
      refine .inr ⟨receipt, hreceipt, ?_, hturns⟩
      intro hok
      cases hskipped.symm.trans ((turn_recorded_iff loop).mpr ⟨receipt, hreceipt, hok⟩)

-- By induction on the turns: each begins with a log that keeps its files, and they gain what
-- the receipts say.
theorem takeTurns_gains (h : loop.Keeps activeAt rotatedAt) :
    (∀ state ∈ loop.states, state.Keeps activeAt rotatedAt) ∧
      (loop.held activeAt rotatedAt).Gains (loop.receipts.map Log.Receipt.added)
        (loop.takeTurns.value.2.held activeAt rotatedAt) := by
  unfold receipts
  fun_induction states loop with
  | case1 loop hstop =>
    rw [takeTurns_of_stop hstop]
    exact ⟨by simp, .nil _⟩
  | case2 loop hstop ih =>
    obtain ⟨hkeeps, hturn⟩ := turn_keeps h
    obtain ⟨hstates, hgains⟩ := ih hkeeps
    rw [takeTurns_of_go (by simpa using hstop)]
    refine ⟨?_, ?_⟩
    · intro state hstate
      rcases List.mem_cons.mp hstate with rfl | hstate
      · exact h
      · exact hstates state hstate
    · rw [List.filterMap_cons]
      cases hreceipt : loop.receipt? with
      | none =>
        rw [hreceipt] at hturn
        rw [← hturn.2]
        exact hgains
      | some receipt =>
        rw [hreceipt] at hturn
        exact .cons hturn.2 hgains

-- Each turn tells what it must about what it adds to the log, and the run counts the records
-- that are whole, but not those that are followed by a rotation that fails: they are there and
-- are not counted.
theorem run_counts_whole (h : loop.Keeps activeAt rotatedAt) :
    (∀ state ∈ loop :: loop.states, state.Tells activeAt rotatedAt) ∧
      (loop.held activeAt rotatedAt).Gains (loop.receipts.map Log.Receipt.added)
        (loop.run.value.2.held activeAt rotatedAt) ∧
      (∀ receipt ∈ loop.receipts, receipt.Disowned →
        ∃ path source, receipt.result = .error (.rotationFailed path source)) ∧
      loop.run.value.1 + loop.receipts.countP (fun receipt => receipt.Disowned) =
        loop.receipts.countP fun receipt => receipt.Whole := by
  obtain ⟨hstates, hgains⟩ := takeTurns_gains h
  refine ⟨?_, hgains, ?_, takeTurns_whole loop⟩
  · intro state hstate
    rcases List.mem_cons.mp hstate with rfl | hstate
    · exact turn_tells h
    · exact turn_tells (hstates state hstate)
  · intro receipt hreceipt
    obtain ⟨state, -, hstate⟩ := List.mem_filterMap.mp hreceipt
    exact (receipt?_result hstate).2

-- A record that is whole while the rotation after it fails, and one that cannot be written.
theorem run_counts_whole_after_faults :
    let inbound : List Inbound := [
      .message [18, 0, 0, 0, 20, 5, 0, 0, 0, 0, 0, 0, 0, 0, 0, 0, 65, 66] ⟨12, 0⟩ none false,
      .message [17, 0, 0, 0, 20, 5, 0, 0, 0, 0, 0, 0, 0, 0, 0, 0, 67] ⟨12, 0⟩ none false]
    let faulty : FaultyDisk := {
      disk := .empty
      writes := [.accept 1, .accept 1, .accept 1, .fail (.os 28)]
      renames := [some .wouldBlock] }
    let activeAt : Place := [['w', 'o', 'r', 'k'], ['l', 'o', 'g']]
    let rotatedAt : Place := [['w', 'o', 'r', 'k'], ['o', 'l', 'd']]
    ∃ log files, (Log.start faulty "log" "old" 2).value = (.ok log, files) ∧
      let loop : EventLoop Socket FaultyDisk := { client := { channel := { inbound } }, log, files }
      loop.Keeps activeAt rotatedAt ∧
        loop.receipts.map Log.Receipt.added = [[65, 66, 10], [10]] ∧
        (loop.held activeAt rotatedAt).Gains (loop.receipts.map Log.Receipt.added)
          (loop.run.value.2.held activeAt rotatedAt) ∧
        loop.run.value.1 + loop.receipts.countP (fun receipt => receipt.Disowned) =
          loop.receipts.countP fun receipt => receipt.Whole := by
  intro inbound faulty activeAt rotatedAt
  have hstarted : (Log.start faulty "log" "old" 2).value = (.ok _, _) := rfl
  have hkeeps := Log.start_keeps Disk.logSite_empty (fun _ => rfl) hstarted
  refine ⟨_, _, hstarted, ?_⟩
  intro loop
  have h : loop.Keeps activeAt rotatedAt := hkeeps
  obtain ⟨-, hgains, -, hcount⟩ := run_counts_whole h
  exact ⟨h, by decide +kernel, hgains, hcount⟩

-- With such a record alone, nothing is said to be recorded, and it is there.
theorem run_misses_whole_record :
    let inbound : List Inbound := [
      .message [18, 0, 0, 0, 20, 5, 0, 0, 0, 0, 0, 0, 0, 0, 0, 0, 65, 66] ⟨12, 0⟩ none false]
    let faulty : FaultyDisk := { disk := .empty, renames := [some .wouldBlock] }
    let activeAt : Place := [['w', 'o', 'r', 'k'], ['l', 'o', 'g']]
    ∃ log files, (Log.start faulty "log" "old" 2).value = (.ok log, files) ∧
      let loop : EventLoop Socket FaultyDisk := { client := { channel := { inbound } }, log, files }
      loop.turn.value.1 = .skipped ∧ loop.run.value.1 = 0 ∧
        loop.files.disk.contentAt? activeAt = some [] ∧
        loop.run.value.2.files.disk.contentAt? activeAt = some [65, 66, 10] := by
  exact ⟨_, _, rfl, by decide +kernel, by decide +kernel, by decide +kernel, by decide +kernel⟩

end EventLoop

end AuditCollector
