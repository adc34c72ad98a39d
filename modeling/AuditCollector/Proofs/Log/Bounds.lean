import AuditCollector.Proofs.Log.Generations
import AuditCollector.Proofs.Log.Receipts

namespace AuditCollector.Log

open FileCall

variable {φ : Type} [FileSystem φ]

-- What came of a call that was a rename.
def FileCall.rename? : FileCall → Option (Except IoError Unit)
  | .rename _ _ result => some result
  | _ => none

-- One of several appends in a row: the log and the files that it finds, and the calls that
-- were made for those before it, the latest first.
structure Appending (φ : Type) where
  log : Log
  files : φ
  record : Bytes
  earlier : List FileCall

namespace Appending

def after (appending : Appending φ) : Log :=
  (appending.log.append appending.files appending.record).value.2.1

def filesAfter (appending : Appending φ) : φ :=
  (appending.log.append appending.files appending.record).value.2.2

-- The calls that this append makes.
def calls (appending : Appending φ) : List FileCall :=
  (appending.log.append (⟨appending.files, []⟩ : Journaled φ) appending.record).value.2.2.calls

def renames (appending : Appending φ) : List (Except IoError Unit) :=
  appending.calls.filterMap FileCall.rename?

-- The active file became the rotated one.
def Moves (appending : Appending φ) : Prop := .ok () ∈ appending.renames

-- The bytes that were accepted between the last two renames that worked. They are what this
-- append moves, if it moves anything.
def generation? (appending : Appending φ) : Option Bytes :=
  beforeRename? (appending.calls ++ appending.earlier)

end Appending

-- The appends of the records, one after the other.
def appendings (log : Log) (files : φ) (earlier : List FileCall) : List Bytes → List (Appending φ)
  | [] => []
  | record :: records =>
    let appending : Appending φ := { log, files, record, earlier }
    appending :: appending.after.appendings appending.filesAfter
      (appending.calls ++ appending.earlier) records

section Calls

variable {log : Log} {files : φ} {file : FileHandle} {journaled journaled' : Journaled φ}
  {calls : List FileCall} {bytes : Bytes}

-- Calls that put some bytes at the end of the generation, and are no renames.
structure Adds (calls : List FileCall) (bytes : Bytes) : Prop where
  renames : calls.filterMap FileCall.rename? = []
  since : ∀ earlier, sinceRename (calls ++ earlier) = sinceRename earlier ++ bytes

-- Calls among which is no rename end no generation.
theorem beforeRename?_append (h : calls.filterMap FileCall.rename? = [])
    (earlier : List FileCall) : beforeRename? (calls ++ earlier) = beforeRename? earlier := by
  induction calls with
  | nil => rfl
  | cons call calls ih =>
    cases call with
    | rename old new result => simp [FileCall.rename?] at h
    | write file data result => exact ih h
    | openFile path result => exact ih h

theorem Adds.length (h : Adds calls bytes) (earlier : List FileCall) :
    (sinceRename (calls ++ earlier)).length = (sinceRename earlier).length + bytes.length := by
  rw [h.since, List.length_append]

theorem Adds.write {data : Bytes} {n : Nat} (h : Adds journaled.calls bytes)
    (hwrite : FileSystem.write journaled file data = (.ok n, journaled')) :
    Adds journaled'.calls (bytes ++ data.take n) := by
  rcases hcall : FileSystem.write journaled.files file data with ⟨result, files⟩
  rw [Journaled.write_eq hcall] at hwrite
  cases hwrite
  refine ⟨h.renames, fun earlier => ?_⟩
  rw [← List.append_assoc, ← h.since]
  rfl

theorem Adds.write_failed {data : Bytes} {error : IoError} (h : Adds journaled.calls bytes)
    (hwrite : FileSystem.write journaled file data = (.error error, journaled')) :
    Adds journaled'.calls bytes := by
  rcases hcall : FileSystem.write journaled.files file data with ⟨result, files⟩
  rw [Journaled.write_eq hcall] at hwrite
  cases hwrite
  refine ⟨h.renames, fun earlier => ?_⟩
  rw [List.cons_append, sinceRename_of_failed rfl, h.since]

-- What was accepted of the data is what all the writes add.
theorem Adds.writeAll (data : Bytes) (h : Adds journaled.calls bytes) :
    Adds (writeAll journaled file data).files.calls
      (bytes ++ data.take (writeAll journaled file data).accepted) := by
  fun_induction Log.writeAll journaled file data generalizing bytes with
  | case1 => simpa using h
  | case2 journaled data hdata journaled' hwrite => simpa using h.write hwrite
  | case3 journaled data hdata n journaled' hwrite hle rest =>
    rename_i ih
    have hrest := ih (h.write hwrite)
    rwa [List.append_assoc, ← List.take_add] at hrest
  | case4 journaled data hdata journaled' hwrite hless ih => exact ih (h.write_failed hwrite)
  | case5 journaled data hdata error journaled' hwrite hother => simpa using h.write_failed hwrite

theorem Receipt.length_added_le (receipt : Receipt) :
    receipt.added.length ≤ receipt.record.length + 1 := by
  unfold added
  split
  · exact Nat.zero_le _
  · rw [List.length_append]
    exact Nat.add_le_add (List.length_take_le' _ _) (List.length_take_le' _ _)

-- The journal makes no difference to a receipt.
theorem receipt_forget {ψ : Type} [FileSystem ψ] {forget : ψ → φ} (hforget : Forgets forget) (log : Log)
    (files : ψ) (record : Bytes) : log.receipt (forget files) record = log.receipt files record := by
  have hresult : (log.append (forget files) record).value.1 = (log.append files record).value.1 :=
    congrArg Prod.fst (append_forget hforget log files record)
  unfold receipt
  rw [hresult]
  cases log.file with
  | none => rfl
  | some file =>
    simp only [writeAll_forget hforget, Written.map, hforget.write]
    rfl

-- An append adds what its receipt says, and then looks at the size.
theorem append_adds (hfile : log.file = some file) (files : φ) (record : Bytes) :
    let between := (FileSystem.write (writeAll files file record).files file separator).2
    ∃ writes, Adds writes (log.receipt files record).added ∧
      (log.append (⟨files, []⟩ : Journaled φ) record).value.2 =
        ((log.count (log.receipt files record).added.length).rotateIfLarge ⟨between, writes⟩).value.2 := by
  intro between
  have hnone : Adds [] [] := ⟨rfl, fun earlier => (List.append_nil _).symm⟩
  have hrecord := @Adds.writeAll φ _ file ⟨files, []⟩ [] record hnone
  have hsame := receipt_forget Journaled.forgets_files log (⟨files, []⟩ : Journaled φ) record
  obtain ⟨hreceipt, happend⟩ := receipt_of_file hfile (⟨files, []⟩ : Journaled φ) record
  have hle := (writeAll_failure (⟨files, []⟩ : Journaled φ) file record).1
  have hfiles : (writeAll (⟨files, []⟩ : Journaled φ) file record).files.files =
      (writeAll files file record).files :=
    (congrArg Written.files (writeAll_forget Journaled.forgets_files ⟨files, []⟩ file record)).symm
  rw [hsame, hreceipt, happend, Receipt.added, List.length_append, List.length_take_of_le hle]
  rcases hended : FileSystem.write (writeAll files file record).files file separator
    with ⟨error | n, files'⟩
  · have hended' := Journaled.write_eq (hfiles ▸ hended)
    obtain rfl : between = files' := congrArg Prod.snd hended
    rw [hended']
    refine ⟨_, ?_, rfl⟩
    simpa [taken] using hrecord.write_failed hended'
  · have hended' := Journaled.write_eq (hfiles ▸ hended)
    obtain rfl : between = files' := congrArg Prod.snd hended
    rw [hended']
    refine ⟨_, hrecord.write hended', ?_⟩
    rw [taken, List.length_take_of_le (FileSystem.write_accepted hended).1]

-- A log that is not too large is left alone. One that is too large stays as it is if the
-- rename fails, and is empty otherwise.
theorem rotateIfLarge_journaled (log : Log) (files : φ) (calls : List FileCall) :
    (log.bytesWritten ≤ log.threshold ∧
        (log.rotateIfLarge (⟨files, calls⟩ : Journaled φ)).value.2 = (log, ⟨files, calls⟩)) ∨
      (log.threshold < log.bytesWritten ∧ ∃ error files',
        (log.rotateIfLarge (⟨files, calls⟩ : Journaled φ)).value.2 =
          (log, ⟨files', .rename log.active log.rotated (.error error) :: calls⟩)) ∨
      (log.threshold < log.bytesWritten ∧ ∃ file? opened files',
        (log.rotateIfLarge (⟨files, calls⟩ : Journaled φ)).value.2 =
          (log.turnOver file?, ⟨files', .openFile log.active opened ::
            .rename log.active log.rotated (.ok ()) :: calls⟩)) := by
  obtain ⟨rotation, files', hrotates⟩ := exists_rotates log files
  have hvalue := congrArg Prod.snd (hrotates.journaled calls).value_eq
  cases hrotates with
  | unneeded hsmall => exact .inl ⟨hsmall, hvalue⟩
  | stuck hlarge hrename => exact .inr (.inl ⟨hlarge, _, _, hvalue⟩)
  | lost hlarge hrename hopen => exact .inr (.inr ⟨hlarge, none, _, _, hvalue⟩)
  | @fresh file _ _ hlarge hrename hopen => exact .inr (.inr ⟨hlarge, some file, _, _, hvalue⟩)

end Calls

-- What holds of a log at any point of a row of appends: it knows how much was accepted since
-- the last rename that worked, and without a file that is nothing.
structure Sized (log : Log) (calls : List FileCall) (threshold : Nat) : Prop where
  counted : log.bytesWritten = (sinceRename calls).length
  closed : log.file = none → log.bytesWritten = 0
  threshold_eq : log.threshold = threshold

namespace Appending

variable {appending : Appending φ} {threshold : Nat}

def receipt (appending : Appending φ) : Receipt :=
  appending.log.receipt appending.files appending.record

-- How much is accepted of the record and its newline.
def accepted (appending : Appending φ) : Nat := appending.receipt.added.length

theorem accepted_le (appending : Appending φ) : appending.accepted ≤ appending.record.length + 1 := by
  have hle := appending.receipt.length_added_le
  rwa [receipt, record_receipt] at hle

theorem outcome_eq (appending : Appending φ) :
    (appending.log.append (⟨appending.files, []⟩ : Journaled φ) appending.record).value.2 =
      (appending.after, ⟨appending.filesAfter, appending.calls⟩) := by
  have hforget := append_forget Journaled.forgets_files appending.log
    (⟨appending.files, []⟩ : Journaled φ) appending.record
  have hplain := congrArg Prod.snd hforget
  rw [after, filesAfter, calls, hplain]
  rfl

-- The ways in which an append can end: there is no file to write to, the log is small
-- enough, the active file cannot be moved, or it was moved.
inductive Ended (appending : Appending φ) (threshold : Nat) : Prop where
  | unavailable (hfile : appending.log.file = none) (hcalls : appending.calls = [])
    (hafter : appending.after = appending.log)
  | small (hfile : appending.log.file ≠ none)
    (hadds : Adds appending.calls appending.receipt.added)
    (hafter : appending.after = appending.log.count appending.accepted)
    (hsmall : appending.log.bytesWritten + appending.accepted ≤ threshold)
  | stuck {writes : List FileCall} {error : IoError} (hfile : appending.log.file ≠ none)
    (hadds : Adds writes appending.receipt.added)
    (hcalls : appending.calls =
      .rename appending.log.active appending.log.rotated (.error error) :: writes)
    (hafter : appending.after = appending.log.count appending.accepted)
    (hlarge : threshold < appending.log.bytesWritten + appending.accepted)
  | moved {writes : List FileCall} {file? : Option FileHandle} {opened : Except IoError FileHandle}
    (hadds : Adds writes appending.receipt.added)
    (hcalls : appending.calls = .openFile appending.log.active opened ::
      .rename appending.log.active appending.log.rotated (.ok ()) :: writes)
    (hafter : appending.after = (appending.log.count appending.accepted).turnOver file?)
    (hlarge : threshold < appending.log.bytesWritten + appending.accepted)

theorem ended (hthreshold : appending.log.threshold = threshold) :
    appending.Ended threshold := by
  have houtcome := appending.outcome_eq
  rcases hfile : appending.log.file with _ | file
  · rw [append_of_unavailable hfile] at houtcome
    obtain ⟨hafter, hfiles⟩ := Prod.mk.inj houtcome
    exact .unavailable hfile (congrArg Journaled.calls hfiles).symm hafter.symm
  · have hopen : appending.log.file ≠ none := by simp [hfile]
    obtain ⟨writes, hadds, hturned⟩ := append_adds hfile appending.files appending.record
    rw [houtcome] at hturned
    let between := (FileSystem.write (writeAll appending.files file appending.record).files file separator).2
    rcases rotateIfLarge_journaled (appending.log.count appending.accepted) between writes with
      ⟨hsmall, h⟩ | ⟨hlarge, error, files'', h⟩ | ⟨hlarge, file?, opened, files'', h⟩
    · obtain ⟨hafter, hfiles⟩ := Prod.mk.inj (hturned.trans h)
      have hcalls : appending.calls = writes := congrArg Journaled.calls hfiles
      exact .small hopen (hcalls ▸ hadds) hafter (hthreshold ▸ hsmall)
    · obtain ⟨hafter, hfiles⟩ := Prod.mk.inj (hturned.trans h)
      exact .stuck hopen hadds (congrArg Journaled.calls hfiles) hafter (hthreshold ▸ hlarge)
    · obtain ⟨hafter, hfiles⟩ := Prod.mk.inj (hturned.trans h)
      exact .moved hadds (congrArg Journaled.calls hfiles) hafter (hthreshold ▸ hlarge)

theorem Ended.sized (hended : appending.Ended threshold)
    (h : Sized appending.log appending.earlier threshold) :
    Sized appending.after (appending.calls ++ appending.earlier) threshold := by
  have hcounted := h.counted
  cases hended with
  | unavailable hfile hcalls hafter =>
    rw [hafter, hcalls]
    exact h
  | small hfile hadds hafter hsmall =>
    rw [hafter]
    refine ⟨?_, fun hnone => absurd hnone hfile, h.threshold_eq⟩
    rw [hadds.length, count, hcounted, accepted]
  | stuck hfile hadds hcalls hafter hlarge =>
    rw [hafter, hcalls]
    refine ⟨?_, fun hnone => absurd hnone hfile, h.threshold_eq⟩
    rw [List.cons_append, sinceRename_of_failed rfl, hadds.length, count, hcounted, accepted]
  | moved hadds hcalls hafter hlarge =>
    rw [hafter, hcalls]
    exact ⟨by simp [turnOver, sinceRename, FileCall.accepted], fun _ => rfl, h.threshold_eq⟩

-- Only a rename that fails leaves the log larger than it should be.
theorem Ended.bounded (hended : appending.Ended threshold)
    (h : Sized appending.log appending.earlier threshold) :
    threshold < appending.after.bytesWritten ↔ appending.renames ≠ [] ∧ ¬appending.Moves := by
  unfold Moves renames
  cases hended with
  | unavailable hfile hcalls hafter =>
    simp [hafter, hcalls, h.closed hfile]
  | small hfile hadds hafter hsmall =>
    simp only [hafter, hadds.renames, count]
    simpa using hsmall
  | stuck hfile hadds hcalls hafter hlarge =>
    simp only [hafter, hcalls, List.filterMap_cons, FileCall.rename?, hadds.renames, count]
    simpa using hlarge
  | moved hadds hcalls hafter hlarge =>
    simp [hafter, hcalls, List.filterMap_cons, FileCall.rename?, hadds.renames, turnOver]

theorem Ended.tries (hended : appending.Ended threshold)
    (h : Sized appending.log appending.earlier threshold)
    (hlarge : threshold < appending.log.bytesWritten) : appending.renames ≠ [] := by
  unfold renames
  cases hended with
  | unavailable hfile hcalls hafter =>
    have hclosed := h.closed hfile
    omega
  | small hfile hadds hafter hsmall => omega
  | stuck hfile hadds hcalls hafter _ => simp [hcalls, FileCall.rename?]
  | moved hadds hcalls hafter _ => simp [hcalls, List.filterMap_cons, FileCall.rename?]

-- What is moved is more than the threshold. If it was not before, then only by what the last
-- append added.
theorem Ended.generation (hended : appending.Ended threshold)
    (h : Sized appending.log appending.earlier threshold) (hmoves : appending.Moves) :
    ∃ generation, appending.generation? = some generation ∧ threshold < generation.length ∧
      (appending.log.bytesWritten ≤ threshold →
        generation.length ≤ threshold + appending.record.length + 1) := by
  have hcounted := h.counted
  unfold Moves renames at hmoves
  cases hended with
  | unavailable hfile hcalls hafter => simp [hcalls] at hmoves
  | small hfile hadds hafter hsmall => simp [hadds.renames] at hmoves
  | stuck hfile hadds hcalls hafter hlarge =>
    simp [hcalls, FileCall.rename?, hadds.renames] at hmoves
  | @moved writes _ _ hadds hcalls hafter hlarge =>
    have hle := appending.accepted_le
    have hlength := hadds.length appending.earlier
    rw [← accepted] at hlength
    refine ⟨sinceRename (writes ++ appending.earlier), ?_, ?_, ?_⟩
    · rw [generation?, hcalls]
      rfl
    · omega
    · omega

end Appending

-- By induction on the records: what every append keeps is true before each of them.
theorem appendings_keep {P : Log → φ → List FileCall → Prop}
    (hstep : ∀ appending : Appending φ, P appending.log appending.files appending.earlier →
      P appending.after appending.filesAfter (appending.calls ++ appending.earlier))
    {log : Log} {files : φ} {earlier : List FileCall} (h : P log files earlier)
    (records : List Bytes) :
    ∀ appending ∈ log.appendings files earlier records,
      P appending.log appending.files appending.earlier := by
  induction records generalizing log files earlier with
  | nil => nofun
  | cons record records ih =>
    intro appending hmem
    rcases List.mem_cons.mp hmem with rfl | hmem
    · exact h
    · exact ih (hstep ⟨log, files, record, earlier⟩ h) appending hmem

theorem appendings_record (log : Log) (files : φ) (earlier : List FileCall) (records : List Bytes) :
    (log.appendings files earlier records).map (·.record) = records := by
  induction records generalizing log files earlier with
  | nil => rfl
  | cons record records ih => exact congrArg (record :: ·) (ih ..)

-- An append that is stuck leaves the log too large, so that the next one tries again.
theorem appendings_isChain {log : Log} {files : φ} {earlier : List FileCall} {threshold : Nat}
    (h : Sized log earlier threshold) (records : List Bytes) :
    (log.appendings files earlier records).IsChain fun appending next =>
      appending.renames ≠ [] ∧ ¬appending.Moves → next.renames ≠ [] := by
  induction records generalizing log files earlier with
  | nil => exact .nil
  | cons record records ih =>
    let appending : Appending φ := ⟨log, files, record, earlier⟩
    have hended : appending.Ended threshold := Appending.ended h.threshold_eq
    have hafter := hended.sized h
    cases records with
    | nil => exact .singleton appending
    | cons record' records =>
      refine .cons_cons (fun hstuck => ?_) (ih hafter)
      let next : Appending φ :=
        ⟨appending.after, appending.filesAfter, record', appending.calls ++ earlier⟩
      have hnext : next.Ended threshold := Appending.ended hafter.threshold_eq
      exact hnext.tries hafter ((hended.bounded h).mpr hstuck)

theorem create_sized {files files' : φ} {active rotated : String} {threshold : Nat} {log : Log}
    (hcreated : (create files active rotated threshold).value = (.ok log, files')) :
    Sized log [] threshold := by
  simp only [create, Traced.value_bind] at hcreated
  rcases hopen : (openFile files active).value with ⟨error | file, between⟩
  · rw [hopen] at hcreated
    cases hcreated
  · rw [hopen] at hcreated
    cases hcreated
    exact ⟨rfl, nofun, rfl⟩

theorem start_sized {files files' : φ} {active rotated : String} {threshold : Nat} {log : Log}
    (hstarted : (start files active rotated threshold).value = (.ok log, files')) :
    Sized log [] threshold := by
  unfold start at hstarted
  split at hstarted
  · exact create_sized hstarted
  · split at hstarted
    · exact create_sized hstarted
    · cases hstarted
  · split at hstarted
    · exact create_sized hstarted
    · cases hstarted

-- A journal may go on from an earlier one.
theorem forgets_earlier (earlier : List FileCall) :
    Forgets fun journaled : Journaled φ =>
      { journaled with calls := journaled.calls ++ earlier } where
  rename _ _ _ := rfl
  openFile _ _ _ := rfl
  setMode _ _ _ := rfl
  write _ _ _ := rfl

theorem Appending.outcome_earlier (appending : Appending φ) :
    (appending.log.append (⟨appending.files, appending.earlier⟩ : Journaled φ)
      appending.record).value.2 =
        (appending.after, ⟨appending.filesAfter, appending.calls ++ appending.earlier⟩) := by
  have hforget := append_forget (forgets_earlier appending.earlier) appending.log
    (⟨appending.files, []⟩ : Journaled φ) appending.record
  refine (congrArg Prod.snd hforget).trans ?_
  rw [forgetFiles, appending.outcome_eq]

section Generations

variable {faulty files : FaultyDisk} {activeAt rotatedAt : Place} {active rotated : String}
  {threshold : Nat} {log : Log} {left : Option Bytes}

theorem Told.contentAt?_rotated {journaled : Journaled FaultyDisk}
    (h : log.Told journaled activeAt rotatedAt left) :
    journaled.files.disk.contentAt? rotatedAt = (beforeRename? journaled.calls).or left := by
  cases hfile : log.file with
  | none => exact (h.holds hfile).previous
  | some handle => exact (h.serves handle hfile).previous

theorem start_told (site : faulty.disk.LogSite active rotated activeAt rotatedAt)
    (hstat : (FileSystem.size faulty active).1 = .error .notFound →
      faulty.disk.contentAt? activeAt = none)
    (hstarted : (start faulty active rotated threshold).value = (.ok log, files)) :
    log.Told ⟨files, []⟩ activeAt rotatedAt (files.disk.contentAt? rotatedAt) := by
  obtain ⟨handle, rfl, hserves⟩ := start_serves ⟨site, rfl, rfl⟩ hstat hstarted
  refine ⟨?_, nofun, rfl, rfl⟩
  rintro handle' ⟨⟩
  exact ⟨hserves.site, hserves.writes, rfl⟩

theorem Told.after {appending : Appending FaultyDisk}
    (h : appending.log.Told ⟨appending.files, appending.earlier⟩ activeAt rotatedAt left) :
    appending.after.Told ⟨appending.filesAfter, appending.calls ++ appending.earlier⟩
      activeAt rotatedAt left := by
  have happend : (appending.log.append (⟨appending.files, appending.earlier⟩ : Journaled FaultyDisk)
      appending.record).value =
        (_, appending.after, ⟨appending.filesAfter, appending.calls ++ appending.earlier⟩) :=
    Prod.ext rfl appending.outcome_earlier
  exact h.append happend

-- What an append moves is what the rotated file holds after it.
theorem appendings_rotated (h : log.Told ⟨files, []⟩ activeAt rotatedAt left)
    {records : List Bytes} {appending : Appending FaultyDisk}
    (hmem : appending ∈ log.appendings files [] records) {generation : Bytes}
    (hgeneration : appending.generation? = some generation) :
    appending.filesAfter.disk.contentAt? rotatedAt = some generation := by
  have hbefore := appendings_keep
    (P := fun log files earlier => log.Told ⟨files, earlier⟩ activeAt rotatedAt left)
    (fun _ htold => htold.after) h records appending hmem
  rw [hbefore.after.contentAt?_rotated]
  change appending.generation?.or left = _
  rw [hgeneration, Option.some_or]

-- Whatever fails: a log that was started is within its threshold after every append that
-- tried no rename, and after every one whose rename worked. What such a rename moves, and
-- the rotated file holds from then on, is more than the threshold, but by no more than the
-- last record and its newline if the log was within the threshold before. After a rename
-- that failed the next append tries again.
theorem appendings_bounded
    (hstarted : (start faulty active rotated threshold).value = (.ok log, files))
    (records : List Bytes) :
    let appendings := log.appendings files [] records
    appendings.map (·.record) = records ∧
    (∀ appending ∈ appendings,
      (appending.renames = [] ∨ appending.Moves → appending.after.bytesWritten ≤ threshold) ∧
      (appending.Moves → ∃ generation, appending.generation? = some generation ∧
        threshold < generation.length ∧
        (appending.log.bytesWritten ≤ threshold →
          generation.length ≤ threshold + appending.record.length + 1) ∧
        ∀ activeAt rotatedAt, faulty.disk.LogSite active rotated activeAt rotatedAt →
          ((FileSystem.size faulty active).1 = .error .notFound →
            faulty.disk.contentAt? activeAt = none) →
          appending.filesAfter.disk.contentAt? rotatedAt = some generation)) ∧
    appendings.IsChain fun appending next =>
      appending.renames ≠ [] ∧ ¬appending.Moves → next.renames ≠ [] := by
  intro appendings
  have hsized := start_sized hstarted
  refine ⟨appendings_record .., fun appending hmem => ?_, appendings_isChain hsized records⟩
  have hbefore := appendings_keep (P := fun (log : Log) (_ : FaultyDisk) earlier =>
    Sized log earlier threshold)
    (fun appending h => (Appending.ended h.threshold_eq).sized h) hsized records appending hmem
  have hended : appending.Ended threshold := Appending.ended hbefore.threshold_eq
  refine ⟨fun hquiet => ?_, fun hmoves => ?_⟩
  · by_contra hlarge
    obtain ⟨htried, hstays⟩ := (hended.bounded hbefore).mp (Nat.not_le.mp hlarge)
    exact hquiet.elim htried hstays
  · obtain ⟨generation, hgeneration, hlarge, hlimit⟩ := hended.generation hbefore hmoves
    exact ⟨generation, hgeneration, hlarge, hlimit, fun activeAt rotatedAt site hstat =>
      appendings_rotated (start_told site hstat hstarted) hmem hgeneration⟩

-- The rename of the first append fails, that of the second one works.
theorem appendings_bounded_after_stuck_rename :
    let faulty : FaultyDisk := { disk := .empty, renames := [some .wouldBlock] }
    let rotatedAt : Place := [['w', 'o', 'r', 'k'], ['o', 'l', 'd']]
    ∃ log files, (start faulty "log" "old" 2).value = (.ok log, files) ∧
      (log.appendings files [] [[65, 66], [67]]).map
          (fun appending => (appending.renames, appending.after.bytesWritten)) =
        [([.error .wouldBlock], 3), ([.ok ()], 0)] ∧
      ∀ appending ∈ log.appendings files [] [[65, 66], [67]], appending.Moves →
        ∃ generation, 2 < generation.length ∧
          appending.filesAfter.disk.contentAt? rotatedAt = some generation := by
  intro faulty rotatedAt
  have hstarted : (start faulty "log" "old" 2).value = (.ok _, _) := rfl
  refine ⟨_, _, hstarted, by decide +kernel, fun appending hmem hmoves => ?_⟩
  obtain ⟨-, hall, -⟩ := appendings_bounded hstarted [[65, 66], [67]]
  obtain ⟨generation, -, hlarge, -, hrotated⟩ := (hall appending hmem).2 hmoves
  exact ⟨generation, hlarge, hrotated _ _ Disk.logSite_empty (fun _ => rfl)⟩

end Generations

end AuditCollector.Log
