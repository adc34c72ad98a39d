import AuditCollector.Proofs.Log.Bounds

namespace AuditCollector.Log

open FileCall

section Text

variable {text : Bytes} {lines : List Bytes} {receipts : List Receipt}

theorem intercalate_separator (lines : List Bytes) :
    separator.intercalate (lines ++ [[]]) = lines.flatMap (· ++ separator) := by
  induction lines with
  | nil => rfl
  | cons line lines ih =>
    have hrest : lines ++ [[]] ≠ [] := by simp
    rw [List.cons_append, List.intercalate_cons_of_ne_nil hrest, ih, List.flatMap_cons, List.append_assoc]

-- A text splits into some lines, and nothing behind the last newline, exactly if it is made of them.
theorem splitOn_eq_iff (hlines : ∀ line ∈ lines, 0x0A ∉ line) :
    text.splitOn 0x0A = lines ++ [[]] ↔ text = lines.flatMap (· ++ separator) := by
  constructor
  · intro hsplit
    have htext : separator.intercalate (text.splitOn 0x0A) = text := List.intercalate_splitOn 0x0A
    rw [← htext, hsplit, intercalate_separator]
  · rintro rfl
    rw [← intercalate_separator]
    apply List.splitOn_intercalate
    · intro line hline
      rcases List.mem_append.mp hline with hline | hline
      · exact hlines line hline
      · rw [List.mem_singleton.mp hline]
        exact List.not_mem_nil
    · simp

-- Every newline that is missing makes the text one byte shorter.
theorem length_flatMap_added (hwhole : ∀ receipt ∈ receipts, receipt.Whole)
    (hended : ∀ receipt ∈ receipts, receipt.ended ≤ 1) :
    (receipts.flatMap Receipt.added).length + receipts.countP (·.ended = 0) =
      ((receipts.map Receipt.record).flatMap (· ++ separator)).length := by
  induction receipts with
  | nil => rfl
  | cons receipt receipts ih =>
    have hrest := ih (fun r hr => hwhole r (List.mem_cons_of_mem _ hr))
      (fun r hr => hended r (List.mem_cons_of_mem _ hr))
    have hone := hended receipt List.mem_cons_self
    have hadded := Receipt.added_of_whole (hwhole receipt List.mem_cons_self)
    have hlast : separator.length = 1 := rfl
    simp only [List.map_cons, List.flatMap_cons, List.length_append, List.countP_cons, hadded,
      List.length_take, hlast, decide_eq_true_eq]
    split
    · omega
    · omega

theorem flatMap_added_eq_iff (hwhole : ∀ receipt ∈ receipts, receipt.Whole)
    (hended : ∀ receipt ∈ receipts, receipt.ended ≤ 1) :
    receipts.flatMap Receipt.added = (receipts.map Receipt.record).flatMap (· ++ separator) ↔
      ∀ receipt ∈ receipts, receipt.ended = 1 := by
  constructor
  · intro hsame receipt hreceipt
    have hlength := length_flatMap_added hwhole hended
    rw [hsame, Nat.add_eq_left, List.countP_eq_zero] at hlength
    have hsome := hlength receipt hreceipt
    have hone := hended receipt hreceipt
    simp only [decide_eq_true_eq] at hsome
    omega
  · intro hall
    rw [List.flatMap_map, List.flatMap_def, List.flatMap_def]
    refine congrArg List.flatten (List.map_congr_left fun receipt hreceipt => ?_)
    rw [Receipt.added_of_whole (hwhole receipt hreceipt), hall receipt hreceipt]
    rfl

end Text

-- An append that goes well had a file to write to, and leaves one.
theorem file_of_append_ok {φ : Type} [FileSystem φ] {log : Log} {files : φ} {record : Bytes}
    (hok : (log.append files record).value.1 = .ok ()) :
    log.file ≠ none ∧ (log.append files record).value.2.1.file ≠ none := by
  cases hfile : log.file with
  | none =>
    rw [append_of_unavailable hfile] at hok
    cases hok
  | some file =>
    refine ⟨by simp, ?_⟩
    rcases hended : FileSystem.write (writeAll files file record).files file separator
      with ⟨ended, files'⟩
    have happend := append_of_file hfile hended
    have hturned := rotateIfLarge_turned
      (log.count ((writeAll files file record).accepted + taken ended)) files'
    rcases hrotate : ((log.count ((writeAll files file record).accepted + taken ended)).rotateIfLarge
      files').value with ⟨rotated, log', files''⟩
    simp only [hrotate] at happend
    rw [happend] at hok ⊢
    rw [hrotate] at hturned
    cases hturned with
    | small => simp [count, hfile]
    | stuck hrename => cases hok
    | lost hrename hopen => cases hok
    | fresh hrename hopen => simp [turnOver]

section Generations

variable {log : Log} {files : FaultyDisk} {activeAt rotatedAt : Place} {left : Option Bytes}
  {earlier : List FileCall} {current : Bytes}

def Appending.result {φ : Type} [FileSystem φ] (appending : Appending φ) : Except LogError Unit :=
  (appending.log.append appending.files appending.record).value.1

instance {φ : Type} [FileSystem φ] (appending : Appending φ) : Decidable appending.Moves :=
  inferInstanceAs (Decidable (_ ∈ _))

theorem Told.held {journaled : Journaled FaultyDisk} (h : log.Told journaled activeAt rotatedAt left)
    (hfile : log.file ≠ none) :
    journaled.files.disk.held activeAt rotatedAt =
      ⟨some (sinceRename journaled.calls), (beforeRename? journaled.calls).or left⟩ := by
  obtain ⟨handle, hhandle⟩ := Option.ne_none_iff_exists'.mp hfile
  exact (keeps_of_serves hhandle (h.serves handle hhandle)).2

-- An append that goes well adds what its receipt says to the active file, which may be the rotated
-- one then.
theorem Told.appended {appending : Appending FaultyDisk}
    (h : appending.log.Told ⟨appending.files, appending.earlier⟩ activeAt rotatedAt left)
    (hok : appending.result = .ok ()) :
    ∃ current previous, appending.files.disk.held activeAt rotatedAt = ⟨some current, previous⟩ ∧
      appending.filesAfter.disk.held activeAt rotatedAt =
        if appending.Moves then ⟨some [], some (current ++ appending.receipt.added)⟩
        else ⟨some (current ++ appending.receipt.added), previous⟩ := by
  obtain ⟨hfile, hafter⟩ := file_of_append_ok hok
  refine ⟨_, _, h.held hfile, ?_⟩
  rw [h.after.held hafter]
  dsimp only
  have hended : appending.Ended appending.log.threshold := Appending.ended rfl
  cases hended with
  | unavailable hnone => exact absurd hnone hfile
  | small _ hadds =>
    have hstays : ¬appending.Moves := by simp [Appending.Moves, Appending.renames, hadds.renames]
    rw [if_neg hstays, hadds.since, beforeRename?_append hadds.renames]
  | stuck _ hadds hcalls =>
    have hstays : ¬appending.Moves := by
      simp [Appending.Moves, Appending.renames, hcalls, FileCall.rename?, hadds.renames]
    rw [if_neg hstays, hcalls, List.cons_append, sinceRename_of_failed rfl, beforeRename?_of_failed rfl,
      hadds.since, beforeRename?_append hadds.renames]
  | moved hadds hcalls =>
    have hmoves : appending.Moves := by
      simp [Appending.Moves, Appending.renames, hcalls, FileCall.rename?, List.filterMap_cons]
    rw [if_pos hmoves, hcalls, ← hadds.since]
    simp [sinceRename, beforeRename?, accepted]

-- The generations that a row of appends leaves, the oldest first: what became the rotated file each
-- time one of them moved the active one, and what is in the active file after the last.
def generations (activeAt rotatedAt : Place) (files : FaultyDisk) :
    List (Appending FaultyDisk) → List Bytes
  | [] => (files.disk.contentAt? activeAt).toList
  | appending :: appendings =>
    let moved := if appending.Moves then (appending.filesAfter.disk.contentAt? rotatedAt).toList else []
    moved ++ generations activeAt rotatedAt appending.filesAfter appendings

-- By induction on the records. What is in the active file before the first of them is in the first
-- generation.
theorem flatten_generations (h : log.Told ⟨files, earlier⟩ activeAt rotatedAt left)
    (hcurrent : files.disk.contentAt? activeAt = some current) {records : List Bytes}
    (hok : ∀ appending ∈ log.appendings files earlier records, appending.result = .ok ()) :
    (generations activeAt rotatedAt files (log.appendings files earlier records)).flatten =
      current ++ ((log.appendings files earlier records).map Appending.receipt).flatMap Receipt.added := by
  induction records generalizing log files earlier current with
  | nil => simp [appendings, generations, hcurrent]
  | cons record records ih =>
    let appending : Appending FaultyDisk := ⟨log, files, record, earlier⟩
    have happending : appending.log.Told ⟨appending.files, appending.earlier⟩ activeAt rotatedAt left := h
    obtain ⟨before, previous, hbefore, hafter⟩ := happending.appended (hok appending List.mem_cons_self)
    have hsame : current = before :=
      Option.some.inj (hcurrent.symm.trans (congrArg Held.active hbefore))
    have hrest := fun a ha => hok a (List.mem_cons_of_mem _ ha)
    simp only [appendings, generations, List.flatten_append, List.map_cons, List.flatMap_cons]
    by_cases hmoves : appending.Moves
    · rw [if_pos hmoves] at hafter
      have hrotated : appending.filesAfter.disk.contentAt? rotatedAt =
          some (before ++ appending.receipt.added) := congrArg Held.rotated hafter
      rw [if_pos hmoves, hrotated, ih happending.after (congrArg Held.active hafter) hrest, hsame,
        Option.toList_some, List.flatten_singleton, List.nil_append, List.append_assoc]
    · rw [if_neg hmoves] at hafter
      rw [if_neg hmoves, ih happending.after (congrArg Held.active hafter) hrest, hsame,
        List.flatten_nil, List.nil_append, List.append_assoc]

theorem Appending.ended_le {φ : Type} [FileSystem φ] (appending : Appending φ) :
    appending.receipt.ended ≤ 1 := by
  unfold receipt Log.receipt
  split
  · exact Nat.zero_le 1
  · exact taken_write_le _ _ separator

-- Whether the one write of the newline was accepted.
def Appending.Terminated {φ : Type} [FileSystem φ] (appending : Appending φ) : Prop :=
  appending.receipt.ended = 1

instance {φ : Type} [FileSystem φ] (appending : Appending φ) : Decidable appending.Terminated :=
  inferInstanceAs (Decidable (_ = _))

theorem Appending.added_of_ok {φ : Type} [FileSystem φ] {appending : Appending φ}
    (hok : appending.result = .ok ()) :
    appending.receipt.Whole ∧
      appending.receipt.added = appending.record ++ if appending.Terminated then separator else [] := by
  have hwhole : appending.receipt.Whole := by
    refine (receipt_result appending.log appending.files appending.record).1 ?_
    rw [result_receipt]
    exact hok
  have hrecord : appending.receipt.record = appending.record := record_receipt ..
  have hended := appending.ended_le
  refine ⟨hwhole, ?_⟩
  rw [Receipt.added_of_whole hwhole, hrecord]
  by_cases hterminated : appending.Terminated
  · rw [if_pos hterminated, hterminated]
    rfl
  · have hnone : appending.receipt.ended = 0 := by
      unfold Terminated at hterminated
      omega
    rw [if_neg hterminated, hnone, List.take_zero]

-- Whatever was asked of a log and whatever failed: an append that goes well has put the whole record
-- behind what was in the active file, and the newline behind that if the one write for it was
-- accepted, without which the append goes well all the same. So the records of appends that all went
-- well are the lines of the log exactly if every newline was accepted.
theorem appendings_lines {faulty : FaultyDisk} {active rotated : String} {threshold : Nat}
    {results : List (Except LogError Unit)} {log' : Log} {journaled : Journaled FaultyDisk}
    (site : faulty.disk.LogSite active rotated activeAt rotatedAt)
    (hstat : (FileSystem.size faulty active).1 = .error .notFound →
      faulty.disk.contentAt? activeAt = none)
    (hstarted : (start faulty active rotated threshold).value = (.ok log, files))
    (commands : List Command)
    (hrun : (log.performAll (⟨files, []⟩ : Journaled FaultyDisk) commands).value =
      (results, log', journaled))
    (records : List Bytes) :
    let appendings := log'.appendings journaled.files journaled.calls records
    (∀ appending ∈ appendings, appending.result = .ok () → ∃ current previous,
      appending.files.disk.held activeAt rotatedAt = ⟨some current, previous⟩ ∧
      let grown := current ++ (appending.record ++ if appending.Terminated then [0x0A] else [])
      appending.filesAfter.disk.held activeAt rotatedAt =
        if appending.Moves then ⟨some [], some grown⟩ else ⟨some grown, previous⟩) ∧
    (journaled.files.disk.contentAt? activeAt = some [] →
      (∀ appending ∈ appendings, appending.result = .ok ()) → (∀ record ∈ records, 0x0A ∉ record) →
      let text := (generations activeAt rotatedAt journaled.files appendings).flatten
      (text.splitOn 0x0A = records ++ [[]] ↔ ∀ appending ∈ appendings, appending.Terminated)) := by
  intro appendings
  have htold : log'.Told ⟨journaled.files, journaled.calls⟩ activeAt rotatedAt _ :=
    (start_told site hstat hstarted).performAll hrun
  refine ⟨fun appending hmem hok => ?_, fun hempty hok hrecords => ?_⟩
  · have hbefore := appendings_keep
      (P := fun log files earlier => log.Told ⟨files, earlier⟩ activeAt rotatedAt _)
      (fun _ h => h.after) htold records appending hmem
    obtain ⟨current, previous, hheld, hafter⟩ := hbefore.appended hok
    rw [(Appending.added_of_ok hok).2] at hafter
    exact ⟨current, previous, hheld, hafter⟩
  · have hwhole : ∀ receipt ∈ appendings.map Appending.receipt, receipt.Whole ∧ receipt.ended ≤ 1 := by
      intro receipt hmem
      obtain ⟨appending, happending, rfl⟩ := List.mem_map.mp hmem
      exact ⟨(Appending.added_of_ok (hok appending happending)).1, appending.ended_le⟩
    have hlines : (appendings.map Appending.receipt).map Receipt.record = records := by
      rw [List.map_map, ← appendings_record log' journaled.files journaled.calls records]
      exact List.map_congr_left fun appending _ => record_receipt ..
    dsimp only
    rw [splitOn_eq_iff hrecords, flatten_generations htold hempty hok, List.nil_append]
    have hiff := flatMap_added_eq_iff (fun r hr => (hwhole r hr).1) (fun r hr => (hwhole r hr).2)
    rw [hlines] at hiff
    exact hiff.trans List.forall_mem_map

-- The first record takes two writes, and is moved.
theorem appendings_lines_of_two :
    let faulty : FaultyDisk := { disk := .empty, writes := [.accept 1, .fail .interrupted] }
    let activeAt : Place := [['w', 'o', 'r', 'k'], ['l', 'o', 'g']]
    let rotatedAt : Place := [['w', 'o', 'r', 'k'], ['o', 'l', 'd']]
    ∃ log files, (start faulty "log" "old" 2).value = (.ok log, files) ∧
      let appendings := log.appendings files [] [[65, 66], [67]]
      (generations activeAt rotatedAt files appendings).flatten.splitOn 10 = [[65, 66], [67], []] := by
  intro faulty activeAt rotatedAt
  have hstarted : (start faulty "log" "old" 2).value = (.ok _, _) := rfl
  have h := appendings_lines Disk.logSite_empty (fun _ => rfl) hstarted [] rfl [[65, 66], [67]]
  refine ⟨_, _, hstarted, (h.2 ?_ ?_ ?_).mpr ?_⟩
  · decide +kernel
  · decide +kernel
  · decide +kernel
  · decide +kernel

-- The write of the first newline is interrupted. Nobody is told, and two records are one line.
theorem appendings_glued :
    let faulty : FaultyDisk := { disk := .empty, writes := [.accept 2, .fail .interrupted] }
    let activeAt : Place := [['w', 'o', 'r', 'k'], ['l', 'o', 'g']]
    let rotatedAt : Place := [['w', 'o', 'r', 'k'], ['o', 'l', 'd']]
    ∃ log files, (start faulty "log" "old" 100).value = (.ok log, files) ∧
      let appendings := log.appendings files [] [[65, 66], [67]]
      (∀ appending ∈ appendings, appending.result = .ok ()) ∧
      (generations activeAt rotatedAt files appendings).flatten.splitOn 10 = [[65, 66, 67], []] :=
  ⟨_, _, rfl, by decide +kernel, by decide +kernel⟩

end Generations

end AuditCollector.Log
