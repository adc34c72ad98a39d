import AuditCollector.Proofs.Disk.Growth
import AuditCollector.Proofs.Log.Bounds

namespace AuditCollector.Log

open FileCall

variable {log : Log} {before : Disk} {activeAt : Place} {handle : FileHandle} {content more : Bytes}
  {position : Nat}

-- The log has a file open, which is the active one, and the next write goes to a position in it. The
-- rotated path does not lead there.
structure Open (log : Log) (disk : Disk) (activeAt : Place) (handle : FileHandle) (content : Bytes)
    (position : Nat) : Prop where
  file : log.file = some handle
  wellFormed : disk.WellFormed
  active : disk.LeadsTo log.active activeAt
  apart : ¬disk.LeadsTo log.rotated activeAt
  writes : disk.WritesAt handle activeAt content position
  within : position ≤ content.length

namespace Open

-- It is open all the same after some more was written to it.
theorem of_grown {disk : Disk} (hopen : log.Open before activeAt handle content position)
    (h : before.Grown handle activeAt content position more disk) (n : Nat) :
    (log.count n).Open disk activeAt handle (content.writtenOver position more)
      (position + more.length) where
  file := hopen.file
  wellFormed := h.names.wellFormed hopen.wellFormed
  active := h.names.leadsTo hopen.active
  apart hleads := hopen.apart (h.names.symm.leadsTo hleads)
  writes := h.writes
  within := Bytes.le_length_writtenOver hopen.within more

end Open

-- A log that was started and then used in any way is open in this sense if it has a file at all.
theorem Told.open {journaled : Journaled FaultyDisk} {rotatedAt : Place} {left : Option Bytes}
    (h : log.Told journaled activeAt rotatedAt left) (hfile : log.file = some handle) :
    log.Open journaled.files.disk activeAt handle (sinceRename journaled.calls)
      (sinceRename journaled.calls).length := by
  obtain ⟨site, hwrites, -⟩ := h.serves handle hfile
  refine ⟨hfile, site.wellFormed, site.active, fun hrotated => ?_, hwrites, Nat.le_refl _⟩
  exact site.ne (hrotated.unique site.rotated)

-- Opening the active file anew leaves the rotated one alone.
theorem contentAt?_rotated_openFile {faulty files : FaultyDisk} {active rotated : String}
    {rotatedAt : Place} {result : Except IoError FileHandle}
    (h : faulty.disk.TwoNames active rotated activeAt rotatedAt)
    (hopen : (openFile faulty active).value = (result, files)) :
    files.disk.contentAt? rotatedAt = faulty.disk.contentAt? rotatedAt := by
  rcases FaultyDisk.openFile_of_twoNames h with
    ⟨error, files', hfailed, hdisk⟩ | ⟨handle, files', hopened, -, hheld⟩
  · cases hopen.symm.trans hfailed
    rw [hdisk]
  · cases hopen.symm.trans hopened
    exact congrArg Held.rotated hheld

namespace Open

variable {faulty files files' : FaultyDisk} (hopen : log.Open faulty.disk activeAt handle content position)

include hopen

theorem rename_of_ok
    (hrename : FileSystem.rename faulty log.active log.rotated = (.ok (), files)) :
    ∃ rotatedAt, rotatedAt ≠ activeAt ∧ faulty.disk.LeadsTo log.rotated rotatedAt ∧
      files.disk.TwoNames log.active log.rotated activeAt rotatedAt ∧
      files.disk.held activeAt rotatedAt = ⟨none, some content⟩ :=
  Disk.rename_of_apart hopen.wellFormed hopen.active hopen.apart hopen.writes.contentAt?
    (FaultyDisk.disk_of_rename_ok hrename)

-- What was in the active file is all that the rotated one holds, whether there is a next file or not.
theorem contentAt?_of_moved {result : Except IoError FileHandle}
    (hrename : FileSystem.rename faulty log.active log.rotated = (.ok (), files))
    (hnext : (openFile files log.active).value = (result, files')) :
    ∃ rotatedAt, rotatedAt ≠ activeAt ∧ faulty.disk.LeadsTo log.rotated rotatedAt ∧
      files'.disk.contentAt? rotatedAt = some content := by
  obtain ⟨rotatedAt, hne, hleads, hnames, hheld⟩ := hopen.rename_of_ok hrename
  refine ⟨rotatedAt, hne, hleads, ?_⟩
  rw [contentAt?_rotated_openFile hnames hnext]
  exact congrArg Held.rotated hheld

end Open

-- Where nothing was moved, nothing was moved earlier.
theorem beforeRename?_eq_none {calls earlier : List FileCall}
    (h : beforeRename? (calls ++ earlier) = none) : beforeRename? earlier = none := by
  induction calls with
  | nil => exact h
  | cons call calls ih =>
    rcases call with _ | ⟨_, _, _ | _⟩ | _
    · exact ih h
    · exact ih h
    · cases h
    · exact ih h

-- An append to a log that has a file does its writes, which keep what every write keeps, and then
-- looks at the size.
theorem Appending.rotates {appending : Appending FaultyDisk} (hfile : appending.log.file = some handle)
    {P : Bytes → Disk → Prop} (hkept : Disk.KeptByWrites handle P) {written : Bytes}
    (h : P written appending.files.disk) :
    ∃ between writes rotation, Adds writes appending.receipt.added ∧
      P (written ++ appending.receipt.added) between.disk ∧
      Rotates (appending.log.count appending.accepted) between rotation appending.filesAfter ∧
      appending.after = rotation.after (appending.log.count appending.accepted) ∧
      appending.calls = (rotation.calls appending.log).reverse ++ writes := by
  obtain ⟨writes, hadds, hturned⟩ := append_adds hfile appending.files appending.record
  have hreceipt := (receipt_of_file hfile appending.files appending.record).1
  have hended := write_kept hkept separator (writeAll_kept hkept appending.record h)
  obtain ⟨rotation, files', hrotates⟩ := exists_rotates (appending.log.count appending.accepted)
    (FileSystem.write (writeAll appending.files handle appending.record).files handle separator).2
  have houtcome := hturned.trans (congrArg Prod.snd (hrotates.journaled writes).value_eq)
  rw [appending.outcome_eq] at houtcome
  obtain ⟨hafter, hfiles⟩ := Prod.mk.inj houtcome
  have hfiles' : appending.filesAfter = files' := congrArg Journaled.files hfiles
  refine ⟨_, writes, rotation, hadds, ?_, hfiles' ▸ hrotates, hafter, ?_⟩
  · rw [receipt, hreceipt, Receipt.added, ← List.append_assoc]
    exact hended
  · have hcalls : rotation.calls (appending.log.count appending.accepted) =
        rotation.calls appending.log := by
      cases rotation with
      | unneeded | stuck _ | lost _ | fresh _ => rfl
    rw [← hcalls]
    exact congrArg Journaled.calls hfiles

-- Since the log was `log` and the disk `before`, the log has written what was accepted, and nothing
-- was moved.
structure Continues (log : Log) (before : Disk) (activeAt : Place) (handle : FileHandle)
    (content : Bytes) (position : Nat) (calls : List FileCall) (log' : Log) (disk : Disk) : Prop where
  unmoved : beforeRename? calls = none
  log_eq : log' = log.count (sinceRename calls).length
  grown : before.Grown handle activeAt content position (sinceRename calls) disk

-- The bytes that were accepted since the last rename that worked, those of this append among them.
def Appending.sinceMoved {φ : Type} [FileSystem φ] (appending : Appending φ) : Bytes :=
  sinceRename (appending.calls ++ appending.earlier)

-- All that was accepted is under the rotated path, where it follows what the file held.
def MovesAll (log : Log) (before : Disk) (activeAt : Place) (content : Bytes) (position : Nat)
    (generation : Bytes) (disk : Disk) : Prop :=
  ∃ rotatedAt, rotatedAt ≠ activeAt ∧ before.LeadsTo log.rotated rotatedAt ∧
    disk.contentAt? rotatedAt = some (content.writtenOver position generation)

-- What one append makes of a log that goes on: it goes on, or everything is moved.
theorem Continues.append {appending : Appending FaultyDisk}
    (hopen : log.Open before activeAt handle content position)
    (h : log.Continues before activeAt handle content position appending.earlier appending.log
      appending.files.disk) :
    log.Continues before activeAt handle content position (appending.calls ++ appending.earlier)
        appending.after appending.filesAfter.disk ∨
      ∃ generation, appending.generation? = some generation ∧
        log.MovesAll before activeAt content position generation appending.filesAfter.disk := by
  have hfile : appending.log.file = some handle := by rw [h.log_eq]; exact hopen.file
  obtain ⟨between, writes, rotation, hadds, hgrown, hrotates, hafter, hcalls⟩ :=
    Appending.rotates hfile (Disk.Grown.keptByWrites hopen.wellFormed hopen.within) h.grown
  have hsince := hadds.since appending.earlier
  have hbefore := beforeRename?_append hadds.renames appending.earlier
  have hcount : appending.log.count appending.accepted =
      log.count (sinceRename (writes ++ appending.earlier)).length := by
    rw [hsince, List.length_append, h.log_eq, count_count]
    rfl
  rw [← hsince] at hgrown
  rw [hcount] at hrotates hafter
  have hopened := hopen.of_grown hgrown (sinceRename (writes ++ appending.earlier)).length
  have hmoves : ∀ {files : FaultyDisk} {result}, FileSystem.rename between log.active log.rotated =
      (.ok (), files) → (openFile files log.active).value = (result, appending.filesAfter) →
      log.MovesAll before activeAt content position (sinceRename (writes ++ appending.earlier))
        appending.filesAfter.disk := by
    intro files result hrename hnext
    obtain ⟨rotatedAt, hne, hleads, hcontent⟩ := hopened.contentAt?_of_moved hrename hnext
    exact ⟨rotatedAt, hne, hgrown.names.symm.leadsTo hleads, hcontent⟩
  cases hrotates with
  | unneeded hsmall =>
    rw [hafter, hcalls]
    exact .inl ⟨hbefore.trans h.unmoved, rfl, hgrown⟩
  | @stuck error _ hlarge hrename =>
    have hfailed : (FileCall.rename log.active log.rotated (.error error)).failed = true := rfl
    have hsame := sinceRename_of_failed hfailed (writes ++ appending.earlier)
    rw [hafter, hcalls]
    refine .inl ⟨hbefore.trans h.unmoved, ?_, ?_⟩
    · exact congrArg (fun bytes => log.count bytes.length) hsame.symm
    · rw [FaultyDisk.disk_of_rename_error hrename]
      exact hsame.symm ▸ hgrown
  | lost hlarge hrename hnext =>
    refine .inr ⟨sinceRename (writes ++ appending.earlier), ?_, hmoves hrename hnext⟩
    rw [Appending.generation?, hcalls]
    rfl
  | fresh hlarge hrename hnext =>
    refine .inr ⟨sinceRename (writes ++ appending.earlier), ?_, hmoves hrename hnext⟩
    rw [Appending.generation?, hcalls]
    rfl

-- By induction on the records: as long as nothing is moved, the log goes on.
theorem Open.appendings {files : FaultyDisk} (hopen : log.Open before activeAt handle content position)
    (hdisk : files.disk = before) (records : List Bytes) :
    ∀ appending ∈ log.appendings files [] records, beforeRename? appending.earlier = none →
      log.Continues before activeAt handle content position appending.earlier appending.log
        appending.files.disk := by
  refine appendings_keep (P := fun log' (files : FaultyDisk) earlier => beforeRename? earlier = none →
    log.Continues before activeAt handle content position earlier log' files.disk) ?_ ?_ records
  · intro appending h hunmoved
    rcases (h (beforeRename?_eq_none hunmoved)).append hopen with
      hcontinues | ⟨generation, hgeneration, -⟩
    · exact hcontinues
    · cases hgeneration.symm.trans hunmoved
  · intro _
    rw [hdisk]
    exact ⟨rfl, rfl, hopen.writes.grown⟩

-- Without a file nothing is ever written, moved or opened again by appends.
theorem appendings_of_unavailable {φ : Type} [FileSystem φ] (hfile : log.file = none) (files : φ)
    (earlier : List FileCall) (records : List Bytes) :
    ∀ appending ∈ log.appendings files earlier records,
      appending.receipt.result = .error .unavailable ∧ appending.calls = [] ∧
        appending.after = log ∧ appending.filesAfter = files := by
  have hstep : ∀ appending : Appending φ, appending.log = log → appending.files = files →
      appending.receipt.result = .error .unavailable ∧ appending.calls = [] ∧
        appending.after = log ∧ appending.filesAfter = files := by
    rintro ⟨log', files', record, earlier⟩ rfl rfl
    have houtcome := Appending.outcome_eq (⟨log', files', record, earlier⟩ : Appending φ)
    rw [append_of_unavailable hfile] at houtcome
    obtain ⟨hafter, hfiles⟩ := Prod.mk.inj houtcome
    refine ⟨?_, (congrArg Journaled.calls hfiles).symm, hafter.symm,
      (congrArg Journaled.files hfiles).symm⟩
    rw [Appending.receipt, receipt_of_unavailable hfile]
  have hsame : ∀ appending ∈ log.appendings files earlier records,
      appending.log = log ∧ appending.files = files :=
    appendings_keep (P := fun log' files' _ => log' = log ∧ files' = files)
      (fun appending h => (hstep appending h.1 h.2).2.2) ⟨rfl, rfl⟩ records
  intro appending hmem
  exact hstep appending (hsame appending hmem).1 (hsame appending hmem).2

section Rotate

variable {faulty files : FaultyDisk} {log' : Log} {error : LogError} {calls : List FileCall}

-- A rotation that fails does so in the rename, and then nothing is different: the log goes on in its
-- file, right behind what it wrote last, until a later rename moves all of it. Or it fails in opening
-- the next file, and then the old one is whole under the rotated path, and all that the log still does
-- is to refuse.
theorem rotate_failed (hopen : log.Open faulty.disk activeAt handle content position)
    (hrotate : (log.rotate (⟨faulty, []⟩ : Journaled FaultyDisk)).value =
      (.error error, log', ⟨files, calls⟩)) :
    (∃ source,
      calls = [.rename log.active log.rotated (.error source)] ∧
      error = .rotationFailed log.rotated source ∧ log' = log ∧ files.disk = faulty.disk ∧
      ∀ records, ∀ appending ∈ log.appendings files [] records,
        (appending.generation? = none →
          appending.after = log.count appending.sinceMoved.length ∧
          appending.filesAfter.disk.contentAt? activeAt =
            some (content.writtenOver position appending.sinceMoved) ∧
          ∀ other, other ≠ activeAt →
            appending.filesAfter.disk.contentAt? other = faulty.disk.contentAt? other) ∧
        (beforeRename? appending.earlier = none → ∀ generation,
          appending.generation? = some generation →
            log.MovesAll faulty.disk activeAt content position generation appending.filesAfter.disk)) ∨
    ∃ source rotatedAt,
      calls = [.openFile log.active (.error source), .rename log.active log.rotated (.ok ())] ∧
      error = .rotationFailed log.active source ∧
      log' = { log with file := none, bytesWritten := 0 } ∧
      rotatedAt ≠ activeAt ∧ faulty.disk.LeadsTo log.rotated rotatedAt ∧
      files.disk.held activeAt rotatedAt = ⟨none, some content⟩ ∧
      log'.close files = (.ok (), files) ∧
      ∀ earlier records, ∀ appending ∈ log'.appendings files earlier records,
        appending.receipt.result = .error .unavailable ∧ appending.calls = [] ∧
          appending.after = log' ∧ appending.filesAfter = files := by
  rcases hrename : FileSystem.rename faulty log.active log.rotated with ⟨source | _, between⟩
  · left
    have hrenamed := @Journaled.rename_eq _ _ ⟨faulty, []⟩ _ _ _ _ hrename
    rw [rotate_of_error hrenamed] at hrotate
    cases hrotate
    have hdisk := FaultyDisk.disk_of_rename_error hrename
    refine ⟨source, rfl, rfl, rfl, hdisk, fun records appending hmem => ?_⟩
    have hbefore := hopen.appendings hdisk records appending hmem
    refine ⟨fun hunmoved => ?_, fun hearlier generation hgeneration => ?_⟩
    · rcases (hbefore (beforeRename?_eq_none hunmoved)).append hopen with
        hafter | ⟨generation, hgeneration, -⟩
      · exact ⟨hafter.log_eq, hafter.grown.writes.contentAt?, hafter.grown.others⟩
      · cases hgeneration.symm.trans hunmoved
    · rcases (hbefore hearlier).append hopen with hafter | ⟨generation', hgeneration', hmoves⟩
      · cases hgeneration.symm.trans hafter.unmoved
      · cases hgeneration.symm.trans hgeneration'
        exact hmoves
  · right
    have hrenamed := @Journaled.rename_eq _ _ ⟨faulty, []⟩ _ _ _ _ hrename
    obtain ⟨rotatedAt, hne, hleads, hnames, hheld⟩ := hopen.rename_of_ok hrename
    rcases hnext : (openFile between log.active).value with ⟨source | handle', after⟩
    · have hnotReopened := rotate_of_not_reopened hrenamed (Journaled.value_openFile hnext)
      rw [hnotReopened] at hrotate
      cases hrotate
      refine ⟨source, rotatedAt, rfl, rfl, rfl, hne, hleads, ?_, rfl, ?_⟩
      · rcases FaultyDisk.openFile_of_twoNames hnames with
          ⟨source', files', hfailed, hdisk⟩ | ⟨handle', files', hopened, -, -⟩
        · cases hnext.symm.trans hfailed
          rw [hdisk]
          exact hheld
        · cases hnext.symm.trans hopened
      · exact fun earlier records => appendings_of_unavailable rfl _ earlier records
    · have hreopened := rotate_of_reopened hrenamed (Journaled.value_openFile hnext)
      rw [hreopened] at hrotate
      cases hrotate

-- First the file cannot be moved, and a record goes to where it would have gone. Then, instead of that
-- record, the file is moved and there is no next one.
theorem rotate_failed_in_both_ways :
    let faulty : FaultyDisk :=
      { disk := .empty, renames := [some .wouldBlock], opens := [none, some (.os 13)] }
    let activeAt : Place := [['w', 'o', 'r', 'k'], ['l', 'o', 'g']]
    let log : Log :=
      { file := some ⟨0⟩, bytesWritten := 0, threshold := 100, active := "log", rotated := "old" }
    ∃ (files stuck moved : FaultyDisk) (lost : Log),
      (start faulty "log" "old" 100).value = (.ok log, files) ∧
      log.Open files.disk activeAt ⟨0⟩ [] 0 ∧
      (log.rotate (⟨files, []⟩ : Journaled FaultyDisk)).value =
        (.error (.rotationFailed "old" .wouldBlock), log,
          ⟨stuck, [.rename "log" "old" (.error .wouldBlock)]⟩) ∧
      (∀ appending ∈ log.appendings stuck [] [[65]],
        appending.filesAfter.disk.contentAt? activeAt = some [65, 10] ∧
          appending.after.bytesWritten = 2) ∧
      (log.rotate (⟨stuck, []⟩ : Journaled FaultyDisk)).value =
        (.error (.rotationFailed "log" (.os 13)), lost,
          ⟨moved, [.openFile "log" (.error (.os 13)), .rename "log" "old" (.ok ())]⟩) ∧
      lost.close moved = (.ok (), moved) ∧
      ∀ appending ∈ lost.appendings moved [] [[65]], appending.filesAfter = moved := by
  intro faulty activeAt log
  let files := (start faulty "log" "old" 100).value.2
  let stuck := (log.rotate files).value.2.2
  let between := (FileSystem.rename stuck "log" "old").2
  let moved := (openFile between "log").value.2
  have hstarted : (start faulty "log" "old" 100).value = (.ok log, files) := rfl
  have hopen : log.Open files.disk activeAt ⟨0⟩ [] 0 :=
    (start_told Disk.logSite_empty (fun _ => rfl) hstarted).open rfl
  have hstuck : (log.rotate (⟨files, []⟩ : Journaled FaultyDisk)).value =
      (.error (.rotationFailed "old" .wouldBlock), log,
        ⟨stuck, [.rename "log" "old" (.error .wouldBlock)]⟩) := rfl
  have hpair : ∀ {α : Type} {outcome : α × FaultyDisk} {result : α},
      outcome.1 = result → outcome = (result, outcome.2) := by
    rintro _ _ _ rfl
    rfl
  have hrename : FileSystem.rename stuck "log" "old" = (.ok (), between) := hpair (by decide +kernel)
  have hnext : (openFile between "log").value = (.error (.os 13), moved) := hpair (by decide +kernel)
  have hgone : (log.rotate (⟨stuck, []⟩ : Journaled FaultyDisk)).value =
      (.error (.rotationFailed "log" (.os 13)), log.turnOver none,
        ⟨moved, [.openFile "log" (.error (.os 13)), .rename "log" "old" (.ok ())]⟩) :=
    rotate_of_not_reopened (@Journaled.rename_eq _ _ ⟨stuck, []⟩ _ _ _ _ hrename)
      (Journaled.value_openFile hnext)
  have hopen' : log.Open stuck.disk activeAt ⟨0⟩ [] 0 := hopen
  have hrows : ∀ appending ∈ log.appendings stuck [] [[65]],
      appending.generation? = none ∧ appending.sinceMoved = [65, 10] := by
    decide +kernel
  refine ⟨files, stuck, moved, log.turnOver none, hstarted, hopen, hstuck, ?_, hgone, ?_⟩
  · rcases rotate_failed hopen hstuck with ⟨source, -, -, -, -, hrest⟩ | ⟨source, _, hcalls, -⟩
    · intro appending hmem
      obtain ⟨hunmoved, hsince⟩ := hrows appending hmem
      obtain ⟨hafter, hcontent, -⟩ := (hrest [[65]] appending hmem).1 hunmoved
      rw [hsince] at hafter hcontent
      exact ⟨hcontent, by rw [hafter]; rfl⟩
    · cases hcalls
  · rcases rotate_failed hopen' hgone with
      ⟨source, hcalls, -⟩ | ⟨_, _, -, -, -, -, -, -, hclose, hlater⟩
    · cases hcalls
    · exact ⟨hclose, fun appending hmem => (hlater [] [[65]] appending hmem).2.2.2⟩

end Rotate

end AuditCollector.Log
