import AuditCollector.Proofs.Disk.Serving
import AuditCollector.Proofs.Log.Journal

namespace AuditCollector.Log

open FileCall

variable {log log' : Log} {journaled journaled' : Journaled FaultyDisk} {activeAt rotatedAt : Place}
  {handle : FileHandle} {left : Option Bytes}

-- The journal tells what the two files hold, with `left` for the rotated file before the
-- first rename. This is what every call keeps.
structure Told (log : Log) (journaled : Journaled FaultyDisk) (activeAt rotatedAt : Place)
    (left : Option Bytes) : Prop where
  serves : ∀ handle, log.file = some handle → journaled.files.disk.Serves log.active log.rotated
    activeAt rotatedAt handle (sinceRename journaled.calls)
    ((beforeRename? journaled.calls).or left)
  holds : log.file = none → journaled.files.disk.Holds log.active log.rotated activeAt rotatedAt
    none ((beforeRename? journaled.calls).or left)
  counted : log.bytesWritten = (sinceRename journaled.calls).length
  available : log.file.isSome = reopened journaled.calls

theorem count_count (log : Log) (m n : Nat) : (log.count m).count n = log.count (m + n) := by
  simp [count, Nat.add_assoc]

theorem Told.write {data : Bytes} {n : Nat} (h : log.Told journaled activeAt rotatedAt left)
    (hfile : log.file = some handle)
    (hwrite : FileSystem.write journaled handle data = (.ok n, journaled')) :
    (log.count n).Told journaled' activeAt rotatedAt left := by
  have hle := (FileSystem.write_accepted hwrite).1
  have hcounted := h.counted
  rcases FaultyDisk.write_of_serves (h.serves handle hfile) data with
    ⟨error, plan, hfailed⟩ | ⟨m, disk', plan, hwritten, hserves⟩
  · rw [Journaled.write_eq hfailed] at hwrite
    cases hwrite
  · rw [Journaled.write_eq hwritten] at hwrite
    cases hwrite
    refine ⟨?_, ?_, ?_, h.available⟩
    · intro handle' hfile'
      obtain rfl : handle = handle' := Option.some.inj (hfile.symm.trans hfile')
      exact hserves
    · intro hnone
      cases hfile.symm.trans hnone
    · simp only [count, sinceRename, accepted, List.length_append, List.length_take, hcounted]
      omega

-- A call that failed and changed nothing on the disk is only written down.
theorem Told.failed {call : FileCall} {files : FaultyDisk}
    (h : log.Told journaled activeAt rotatedAt left) (hcall : call.failed = true)
    (hdisk : files.disk = journaled.files.disk) :
    log.Told { files, calls := call :: journaled.calls } activeAt rotatedAt left := by
  have hsince := sinceRename_of_failed hcall journaled.calls
  have hbefore := beforeRename?_of_failed hcall journaled.calls
  refine ⟨?_, ?_, ?_, ?_⟩
  · simpa only [hsince, hbefore, hdisk] using h.serves
  · simpa only [hbefore, hdisk] using h.holds
  · rw [hsince, h.counted]
  · rw [reopened_of_failed hcall, h.available]

theorem Told.write_failed {data : Bytes} {error : IoError}
    (h : log.Told journaled activeAt rotatedAt left) (hfile : log.file = some handle)
    (hwrite : FileSystem.write journaled handle data = (.error error, journaled')) :
    log.Told journaled' activeAt rotatedAt left := by
  rcases FaultyDisk.write_of_serves (h.serves handle hfile) data with
    ⟨error', plan, hfailed⟩ | ⟨m, disk', plan, hwritten, -⟩
  · rw [Journaled.write_eq hfailed] at hwrite
    cases hwrite
    exact h.failed rfl rfl
  · rw [Journaled.write_eq hwritten] at hwrite
    cases hwrite

theorem Told.rename_failed {error : IoError} {renames : List (Option IoError)}
    {result : Except LogError Unit} (h : log.Told journaled activeAt rotatedAt left)
    (hrename : FileSystem.rename journaled.files log.active log.rotated =
      (.error error, { journaled.files with renames }))
    (hrotate : (log.rotate journaled).value = (result, log', journaled')) :
    log'.Told journaled' activeAt rotatedAt left := by
  rw [rotate_of_error (Journaled.rename_eq hrename)] at hrotate
  cases hrotate
  exact h.failed rfl rfl

-- A rename that failed changes nothing. One that worked ends a generation, and the next
-- one begins if the file can be opened again.
theorem Told.rotate {result : Except LogError Unit}
    (h : log.Told journaled activeAt rotatedAt left)
    (hrotate : (log.rotate journaled).value = (result, log', journaled')) :
    log'.Told journaled' activeAt rotatedAt left := by
  cases hfile : log.file with
  | none =>
    obtain ⟨error, hrename⟩ := FaultyDisk.rename_of_none (h.holds hfile)
    exact h.rename_failed hrename hrotate
  | some handle =>
    rcases FaultyDisk.rename_of_some (h.serves handle hfile).holds with
      ⟨error, plan, -, hrename⟩ | ⟨disk', hrename, hmoved⟩
    · exact h.rename_failed hrename hrotate
    · have hrenamed := Journaled.rename_eq hrename
      have hmoved' : { journaled.files with
          disk := disk', renames := journaled.files.renames.tail }.disk.Holds log.active log.rotated
        activeAt rotatedAt none (some (sinceRename journaled.calls)) := hmoved
      rcases FaultyDisk.openFile_of_holds hmoved' rfl with
        ⟨error, plan, -, hopen⟩ | ⟨handle', disk'', modes, hopen, hserves'⟩
      · rw [rotate_of_not_reopened hrenamed (Journaled.value_openFile hopen)] at hrotate
        cases hrotate
        refine ⟨?_, ?_, rfl, rfl⟩
        · intro handle' hnone
          cases hnone
        · intro _
          exact hmoved
      · rw [rotate_of_reopened hrenamed (Journaled.value_openFile hopen)] at hrotate
        cases hrotate
        refine ⟨?_, ?_, rfl, rfl⟩
        · intro handle'' hfile'
          cases hfile'
          exact hserves'
        · intro hnone
          cases hnone

theorem Told.rotateIfLarge {result : Except LogError Unit}
    (h : log.Told journaled activeAt rotatedAt left)
    (hrotate : (log.rotateIfLarge journaled).value = (result, log', journaled')) :
    log'.Told journaled' activeAt rotatedAt left := by
  by_cases hlarge : log.threshold < log.bytesWritten
  · rw [rotateIfLarge_of_lt hlarge] at hrotate
    exact h.rotate hrotate
  · rw [rotateIfLarge_of_le (Nat.not_lt.mp hlarge)] at hrotate
    cases hrotate
    exact h

theorem Told.append {record : Bytes} {result : Except LogError Unit}
    (h : log.Told journaled activeAt rotatedAt left)
    (happend : (log.append journaled record).value = (result, log', journaled')) :
    log'.Told journaled' activeAt rotatedAt left := by
  cases hfile : log.file with
  | none =>
    rw [append_of_unavailable hfile] at happend
    cases happend
    exact h
  | some handle =>
    have hrecord : (log.count (writeAll journaled handle record).accepted).Told
        (writeAll journaled handle record).files activeAt rotatedAt left := by
      have hnone : (log.count 0).Told journaled activeAt rotatedAt left := h
      have := writeAll_preserves (P := fun files n => (log.count n).Told files activeAt rotatedAt left)
        (fun hwrite htold => by simpa only [count_count] using htold.write hfile hwrite)
        (fun hwrite htold => htold.write_failed hfile hwrite) record hnone
      rwa [Nat.zero_add] at this
    rcases hended : FileSystem.write (writeAll journaled handle record).files handle separator
      with ⟨ended, files⟩
    have hcounted : (log.count ((writeAll journaled handle record).accepted + taken ended)).Told
        files activeAt rotatedAt left := by
      cases ended with
      | error error => exact hrecord.write_failed hfile hended
      | ok n => simpa only [count_count, taken] using hrecord.write hfile hended
    rw [append_of_file hfile hended] at happend
    exact hcounted.rotateIfLarge (Prod.ext rfl (Prod.mk.inj happend).2)

theorem Told.perform {command : Command} {result : Except LogError Unit}
    (h : log.Told journaled activeAt rotatedAt left)
    (hperform : (log.perform journaled command).value = (result, log', journaled')) :
    log'.Told journaled' activeAt rotatedAt left := by
  cases command with
  | append record => exact h.append hperform
  | appendText text => exact h.append hperform
  | rotate => exact h.rotate hperform

-- By induction on the commands, each of which keeps what the journal tells.
theorem Told.performAll {commands : List Command} {results : List (Except LogError Unit)}
    (h : log.Told journaled activeAt rotatedAt left)
    (hperform : (log.performAll journaled commands).value = (results, log', journaled')) :
    log'.Told journaled' activeAt rotatedAt left := by
  induction commands generalizing log journaled results with
  | nil => cases hperform; exact h
  | cons command commands ih =>
    simp only [Log.performAll, Traced.value_bind, Traced.value_pure] at hperform
    have hfirst := h.perform (Prod.ext rfl rfl : (log.perform journaled command).value = (_, _, _))
    exact ih hfirst (Prod.ext rfl (Prod.mk.inj hperform).2)

-- Whatever fails: the active file holds what was accepted since the last rename that
-- worked, in order, and is missing if it could not be opened again after that. The rotated
-- file holds what was accepted before that rename and after the one before, or what the
-- start of the log left in it. The log knows how much is in the active file.
theorem generations_eq_accepted {faulty files : FaultyDisk} {active rotated : String}
    {threshold : Nat} {results : List (Except LogError Unit)}
    (site : faulty.disk.LogSite active rotated activeAt rotatedAt)
    (hstat : (FileSystem.size faulty active).1 = .error .notFound →
      faulty.disk.contentAt? activeAt = none)
    (hstarted : (start faulty active rotated threshold).value = (.ok log, files))
    (commands : List Command)
    (hrun : (log.performAll (⟨files, []⟩ : Journaled FaultyDisk) commands).value =
      (results, log', journaled)) :
    (log.performAll files commands).value = (results, log', journaled.files) ∧
      journaled.files.disk.contentAt? activeAt =
        (if reopened journaled.calls then some (sinceRename journaled.calls) else none) ∧
      journaled.files.disk.contentAt? rotatedAt =
        (beforeRename? journaled.calls).or (files.disk.contentAt? rotatedAt) ∧
      log'.bytesWritten = (sinceRename journaled.calls).length ∧
      log'.file.isSome = reopened journaled.calls := by
  obtain ⟨handle, hlog, hserves⟩ := start_serves ⟨site, rfl, rfl⟩ hstat hstarted
  have hbegin : log.Told ⟨files, []⟩ activeAt rotatedAt (files.disk.contentAt? rotatedAt) := by
    subst hlog
    refine ⟨?_, ?_, rfl, rfl⟩
    · rintro handle' ⟨⟩
      exact ⟨hserves.site, hserves.writes, rfl⟩
    · rintro ⟨⟩
  have htold := hbegin.performAll hrun
  refine ⟨?_, ?_, ?_, htold.counted, htold.available⟩
  · have hforget := performAll_forget Journaled.forgets_files log
      (⟨files, []⟩ : Journaled FaultyDisk) commands
    rwa [hrun] at hforget
  · have havailable := htold.available
    cases hfile : log'.file with
    | none =>
      rw [hfile] at havailable
      rw [← havailable]
      exact (htold.holds hfile).current
    | some handle' =>
      rw [hfile] at havailable
      rw [← havailable]
      exact (htold.serves handle' hfile).writes.contentAt?
  · cases hfile : log'.file with
    | none => exact (htold.holds hfile).previous
    | some handle' => exact (htold.serves handle' hfile).previous

-- A record in three writes, a rename that fails and one that works, and then no file.
theorem generations_eq_accepted_after_faults :
    let faulty : FaultyDisk :=
      { disk := .empty, writes := [.accept 1, .fail .interrupted],
        opens := [none, some .wouldBlock], renames := [some .wouldBlock] }
    let rotatedAt : Place := [['w', 'o', 'r', 'k'], ['o', 'l', 'd']]
    ∃ log files results log' journaled,
      (start faulty "log" "old" 2).value = (.ok log, files) ∧
      (log.performAll (⟨files, []⟩ : Journaled FaultyDisk)
        [.append [65, 66], .rotate, .append [67]]).value = (results, log', journaled) ∧
      reopened journaled.calls = false ∧ beforeRename? journaled.calls = some [65, 66, 10] ∧
      journaled.files.disk.contentAt? rotatedAt =
        (beforeRename? journaled.calls).or (files.disk.contentAt? rotatedAt) := by
  intro faulty rotatedAt
  have hstarted : (start faulty "log" "old" 2).value = (.ok _, _) := rfl
  have h := generations_eq_accepted Disk.logSite_empty (fun _ => rfl) hstarted
    [.append [65, 66], .rotate, .append [67]] rfl
  exact ⟨_, _, _, _, _, hstarted, rfl, by decide +kernel, by decide +kernel, h.2.2.1⟩

end AuditCollector.Log
