import AuditCollector.Disk.Faults
import AuditCollector.Proofs.Disk.Site
import AuditCollector.Proofs.Log.Steps

namespace AuditCollector

variable {active rotated : String} {activeAt rotatedAt : Place} {handle : FileHandle}
  {current : Bytes} {previous : Option Bytes}

namespace Disk

variable {disk : Disk}

-- The two files of a log: what the active and the rotated one hold, if they are there.
structure Holds (disk : Disk) (active rotated : String) (activeAt rotatedAt : Place)
    (current previous : Option Bytes) : Prop where
  site : disk.LogSite active rotated activeAt rotatedAt
  current : disk.contentAt? activeAt = current
  previous : disk.contentAt? rotatedAt = previous

-- The disk as an open log sees it: its file is the active one, and the next write goes to
-- the end of it.
structure Serves (disk : Disk) (active rotated : String) (activeAt rotatedAt : Place)
    (handle : FileHandle) (current : Bytes) (previous : Option Bytes) : Prop where
  site : disk.LogSite active rotated activeAt rotatedAt
  writes : disk.WritesAtEnd handle activeAt current
  previous : disk.contentAt? rotatedAt = previous

theorem Serves.holds (h : disk.Serves active rotated activeAt rotatedAt handle current previous) :
    disk.Holds active rotated activeAt rotatedAt (some current) previous :=
  ⟨h.site, h.writes.contentAt?, h.previous⟩

theorem Serves.write (h : disk.Serves active rotated activeAt rotatedAt handle current previous)
    (data : Bytes) :
    ∃ disk', disk.write handle data = .ok disk' ∧
      disk'.Serves active rotated activeAt rotatedAt handle (current ++ data) previous := by
  obtain ⟨disk', hwrite, hsame, hend, hother⟩ := h.writes.write h.site.wellFormed data
  refine ⟨disk', hwrite, hsame.logSite h.site, hend, ?_⟩
  rw [hother rotatedAt h.site.ne.symm, h.previous]

-- The property of what was written and of the disk stays true when more is written to the open file.
def KeptByWrites (handle : FileHandle) (P : Bytes → Disk → Prop) : Prop :=
  ∀ written disk, P written disk → ∀ data,
    ∃ disk', disk.write handle data = .ok disk' ∧ P (written ++ data) disk'

theorem Serves.keptByWrites : KeptByWrites handle fun current disk =>
    disk.Serves active rotated activeAt rotatedAt handle current previous :=
  fun _ _ h data => h.write data

theorem Serves.setMode (h : disk.Serves active rotated activeAt rotatedAt handle current previous)
    (mode : Nat) :
    ∃ disk', disk.setMode handle mode = .ok disk' ∧
      disk'.Serves active rotated activeAt rotatedAt handle current previous := by
  obtain ⟨disk', hmode, hsame, hend, hother⟩ := h.writes.setMode mode
  refine ⟨disk', hmode, hsame.logSite h.site, hend, ?_⟩
  rw [hother rotatedAt, h.previous]

-- A file that is there can be moved aside, and then it is all that the rotated file holds.
theorem Holds.rename_of_some
    (h : disk.Holds active rotated activeAt rotatedAt (some current) previous) :
    ∃ disk', disk.rename active rotated = .ok disk' ∧
      disk'.Holds active rotated activeAt rotatedAt none (some current) := by
  have hcurrent := h.current
  cases hentry : disk.entryAt? activeAt with
  | none => rw [contentAt?_of_free hentry] at hcurrent; cases hcurrent
  | some entry =>
    cases entry with
    | directory => exact absurd hentry h.site.activeFree
    | file number =>
      refine ⟨_, by rw [h.site.rename_eq, hentry], h.site.moveOver, ?_, ?_⟩
      · rw [h.site.contentAt?_moveOver, if_neg h.site.ne, if_pos rfl]
      · rw [h.site.contentAt?_moveOver, if_pos rfl, hcurrent]

theorem Holds.rename_of_none (h : disk.Holds active rotated activeAt rotatedAt none previous) :
    disk.rename active rotated = .error .notFound := by
  have hcurrent := h.current
  cases hentry : disk.entryAt? activeAt with
  | none => rw [h.site.rename_eq, hentry]
  | some entry =>
    cases entry with
    | directory => exact absurd hentry h.site.activeFree
    | file number =>
      have hlt := h.site.wellFormed.stored _ _ hentry
      rw [contentAt?_of_file hentry, List.getElem?_eq_getElem hlt] at hcurrent
      cases hcurrent

theorem Holds.openFile {content : Option Bytes}
    (h : disk.Holds active rotated activeAt rotatedAt content previous)
    (hempty : content.getD [] = []) (mode : Nat) :
    ∃ handle disk', disk.openFile active mode = .ok (handle, disk') ∧
      disk'.Serves active rotated activeAt rotatedAt handle [] previous := by
  obtain ⟨handle, disk', hopen, hsite, hend, hother⟩ := h.site.openFile (by
    intro bytes hbytes
    rw [h.current] at hbytes
    simpa [hbytes] using hempty) mode
  exact ⟨handle, disk', hopen, hsite, hend, by rw [hother, h.previous]⟩

end Disk

namespace FaultyDisk

variable {faulty : FaultyDisk}

theorem write_of_fail {error : IoError} {plan : List WriteFault}
    (hplan : faulty.writes = .fail error :: plan) (handle : FileHandle) (data : Bytes) :
    FileSystem.write faulty handle data = (.error error, { faulty with writes := plan }) := by
  change faulty.write handle data = _
  rw [FaultyDisk.write, hplan]

section Writes

variable {P : Bytes → Disk → Prop} {written : Bytes} (hkept : Disk.KeptByWrites handle P)
  (h : P written faulty.disk)

include hkept h

theorem write_of_accept {limit : Nat} {plan : List WriteFault}
    (hplan : faulty.writes = .accept limit :: plan) (data : Bytes) :
    ∃ disk', FileSystem.write faulty handle data =
        (.ok (min limit data.length), { faulty with disk := disk', writes := plan }) ∧
      P (written ++ data.take limit) disk' := by
  obtain ⟨disk', hwrite, hwritten⟩ := hkept _ _ h (data.take limit)
  refine ⟨disk', ?_, hwritten⟩
  change faulty.write handle data = _
  rw [FaultyDisk.write, hplan]
  simp [settle, hwrite, Except.map]

theorem write_of_unplanned (hplan : faulty.writes = []) (data : Bytes) :
    ∃ disk', FileSystem.write faulty handle data =
        (.ok data.length, { faulty with disk := disk' }) ∧ P (written ++ data) disk' := by
  obtain ⟨disk', hwrite, hwritten⟩ := hkept _ _ h data
  refine ⟨disk', ?_, hwritten⟩
  change faulty.write handle data = _
  rw [FaultyDisk.write, hplan]
  simp [settle, hwrite, Except.map, hplan]

-- A write changes nothing on the disk, or what was accepted is written.
theorem write_of_kept (data : Bytes) :
    (∃ error plan, FileSystem.write faulty handle data =
        (.error error, { faulty with writes := plan })) ∨
    (∃ n disk' plan, FileSystem.write faulty handle data =
        (.ok n, { faulty with disk := disk', writes := plan }) ∧
      P (written ++ data.take n) disk') := by
  cases hplan : faulty.writes with
  | nil =>
    obtain ⟨disk', hwrite, hwritten⟩ := write_of_unplanned hkept h hplan data
    refine .inr ⟨data.length, disk', faulty.writes, hwrite, ?_⟩
    rwa [List.take_length]
  | cons fault plan =>
    cases fault with
    | fail error => exact .inl ⟨error, plan, write_of_fail hplan handle data⟩
    | accept limit =>
      obtain ⟨disk', hwrite, hwritten⟩ := write_of_accept hkept h hplan data
      refine .inr ⟨min limit data.length, disk', plan, hwrite, ?_⟩
      rwa [← List.take_eq_take_min]

end Writes

-- What was accepted ends up in the active file.
theorem write_of_serves
    (h : faulty.disk.Serves active rotated activeAt rotatedAt handle current previous)
    (data : Bytes) :
    (∃ error plan, FileSystem.write faulty handle data =
        (.error error, { faulty with writes := plan })) ∨
    (∃ n disk' plan, FileSystem.write faulty handle data =
        (.ok n, { faulty with disk := disk', writes := plan }) ∧
      disk'.Serves active rotated activeAt rotatedAt handle (current ++ data.take n) previous) :=
  write_of_kept Disk.Serves.keptByWrites h data

-- A file that is there is moved aside, unless a failure is planned.
theorem rename_of_some
    (h : faulty.disk.Holds active rotated activeAt rotatedAt (some current) previous) :
    (∃ error plan, faulty.renames = some error :: plan ∧
      FileSystem.rename faulty active rotated = (.error error, { faulty with renames := plan })) ∨
    (∃ disk', FileSystem.rename faulty active rotated =
        (.ok (), { faulty with disk := disk', renames := faulty.renames.tail }) ∧
      disk'.Holds active rotated activeAt rotatedAt none (some current)) := by
  obtain ⟨disk', hrename, hholds⟩ := h.rename_of_some
  change (∃ error plan, _ ∧ faulty.rename active rotated = _) ∨
    (∃ disk', faulty.rename active rotated = _ ∧ _)
  unfold FaultyDisk.rename
  split
  · rename_i error plan hplan
    exact .inl ⟨error, plan, hplan, rfl⟩
  · refine .inr ⟨disk', ?_, hholds⟩
    simp [settle, hrename, Except.map]

theorem rename_of_none
    (h : faulty.disk.Holds active rotated activeAt rotatedAt none previous) :
    ∃ error, FileSystem.rename faulty active rotated =
      (.error error, { faulty with renames := faulty.renames.tail }) := by
  change ∃ error, faulty.rename active rotated = _
  unfold FaultyDisk.rename
  split
  · rename_i error plan hplan
    exact ⟨error, by rw [hplan, List.tail_cons]⟩
  · exact ⟨.notFound, by simp [settle, h.rename_of_none, Except.map]⟩

-- A file that the disk can open is opened, unless a failure is planned. Setting its mode may fail
-- all the same.
theorem openFile_of_disk_ok {path : String} {opened disk' : Disk}
    (hopen : faulty.disk.openFile path Log.fileMode = .ok (handle, opened))
    (hmode : opened.setMode handle Log.fileMode = .ok disk') :
    (∃ error plan, faulty.opens = some error :: plan ∧
      (Log.openFile faulty path).value = (.error error, { faulty with opens := plan })) ∨
    (∃ disk modes, (disk = opened ∨ disk = disk') ∧ (Log.openFile faulty path).value =
        (.ok handle, { faulty with disk, opens := faulty.opens.tail, modes })) := by
  by_cases hplan : ∃ error plan, faulty.opens = some error :: plan
  · obtain ⟨error, plan, hplan⟩ := hplan
    refine .inl ⟨error, plan, hplan, Log.openFile_of_error ?_⟩
    change faulty.openFile path Log.fileMode = _
    rw [FaultyDisk.openFile, hplan]
  · right
    have hopened : FileSystem.openFile faulty path Log.fileMode =
        (.ok handle, { faulty with disk := opened, opens := faulty.opens.tail }) := by
      change faulty.openFile path Log.fileMode = _
      unfold FaultyDisk.openFile
      split
      · rename_i error plan h'
        exact absurd ⟨error, plan, h'⟩ hplan
      · simp [settle, hopen]
    rw [Log.openFile_of_ok hopened]
    change ∃ disk modes, _ ∧ (_, (FaultyDisk.setMode _ handle Log.fileMode).2) = _
    unfold FaultyDisk.setMode
    split
    · rename_i error modes hmodes
      exact ⟨opened, modes, .inl rfl, rfl⟩
    · exact ⟨disk', faulty.modes, .inr rfl, by simp [settle, hmode, Except.map]⟩

-- The log opens its file at the end.
theorem openFile_of_holds {content : Option Bytes}
    (h : faulty.disk.Holds active rotated activeAt rotatedAt content previous)
    (hempty : content.getD [] = []) :
    (∃ error plan, faulty.opens = some error :: plan ∧
      (Log.openFile faulty active).value = (.error error, { faulty with opens := plan })) ∨
    (∃ handle disk' modes, (Log.openFile faulty active).value =
        (.ok handle, { faulty with disk := disk', opens := faulty.opens.tail, modes }) ∧
      disk'.Serves active rotated activeAt rotatedAt handle [] previous) := by
  obtain ⟨handle, opened, hopen, hserves⟩ := h.openFile hempty Log.fileMode
  obtain ⟨disk', hmode, hserves'⟩ := hserves.setMode Log.fileMode
  rcases openFile_of_disk_ok hopen hmode with hfailed | ⟨disk'', modes, hdisk, hopened⟩
  · exact .inl hfailed
  · refine .inr ⟨handle, disk'', modes, hopened, ?_⟩
    rcases hdisk with rfl | rfl
    · exact hserves
    · exact hserves'

theorem size_of_holds {content : Option Bytes}
    (h : faulty.disk.Holds active rotated activeAt rotatedAt content previous) :
    (∃ error plan, faulty.sizes = some error :: plan ∧
      FileSystem.size faulty active = (.error error, { faulty with sizes := plan })) ∨
    FileSystem.size faulty active =
      (content.elim (.error .notFound) fun bytes => .ok bytes.length,
        { faulty with sizes := faulty.sizes.tail }) := by
  change (∃ error plan, _ ∧ faulty.size active = _) ∨ faulty.size active = _
  unfold FaultyDisk.size
  split
  · rename_i error plan hplan
    exact .inl ⟨error, plan, hplan, rfl⟩
  · rw [h.site.size, h.current]
    exact .inr rfl

end FaultyDisk

namespace Log

variable {faulty : FaultyDisk} {threshold : Nat} {log : Log} {faulty' : FaultyDisk}

theorem create_serves {content : Option Bytes}
    (h : faulty.disk.Holds active rotated activeAt rotatedAt content previous)
    (hempty : content.getD [] = [])
    (hcreated : (create faulty active rotated threshold).value = (.ok log, faulty')) :
    ∃ handle, log = { file := some handle, bytesWritten := 0, threshold, active, rotated } ∧
      faulty'.disk.Serves active rotated activeAt rotatedAt handle [] previous := by
  unfold create at hcreated
  rcases FaultyDisk.openFile_of_holds h hempty with
    ⟨error, plan, -, hopen⟩ | ⟨handle, disk', modes, hopen, hserves⟩
  · simp [hopen] at hcreated
  · simp only [Traced.value_bind, hopen, Traced.value_pure, Prod.mk.injEq, Except.ok.injEq]
      at hcreated
    obtain ⟨rfl, rfl⟩ := hcreated
    exact ⟨handle, rfl, hserves⟩

-- A log that could be started has an empty file. What the active file held before is now
-- in the rotated one, unless that was nothing. The system must not deny a file that is
-- there.
theorem start_serves {content : Option Bytes}
    (h : faulty.disk.Holds active rotated activeAt rotatedAt content previous)
    (hstat : (FileSystem.size faulty active).1 = .error .notFound → content = none)
    (hstarted : (start faulty active rotated threshold).value = (.ok log, faulty')) :
    ∃ handle, log = { file := some handle, bytesWritten := 0, threshold, active, rotated } ∧
      faulty'.disk.Serves active rotated activeAt rotatedAt handle []
        (if content.getD [] = [] then previous else content) := by
  unfold start at hstarted
  rcases FaultyDisk.size_of_holds h with ⟨error, plan, -, hsize⟩ | hsize
  · rw [hsize] at hstarted
    by_cases herror : error = .notFound
    · obtain rfl := hstat (by rw [hsize, herror])
      have hsized : { faulty with sizes := plan }.disk.Holds active rotated activeAt rotatedAt
          none previous := h
      simp only [herror, if_true] at hstarted
      exact create_serves hsized rfl hstarted
    · simp [herror] at hstarted
  · have hsized : { faulty with sizes := faulty.sizes.tail }.disk.Holds active rotated activeAt
        rotatedAt content previous := h
    match content with
    | none =>
      rw [hsize] at hstarted
      exact create_serves hsized rfl hstarted
    | some [] =>
      rw [hsize] at hstarted
      exact create_serves hsized rfl hstarted
    | some (byte :: bytes) =>
      simp only [hsize, Option.elim_some, List.length_cons] at hstarted
      rcases FaultyDisk.rename_of_some hsized with
        ⟨error, plan, -, hrename⟩ | ⟨disk', hrename, hmoved⟩
      · rw [hrename] at hstarted
        simp at hstarted
      · rw [hrename] at hstarted
        exact create_serves hmoved rfl hstarted

end Log

end AuditCollector
