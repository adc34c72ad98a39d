import AuditCollector.Proofs.Config.Validation
import AuditCollector.Proofs.Disk.Spelling
import AuditCollector.Proofs.Log.Splitter
import AuditCollector.Proofs.Log.Tape

namespace AuditCollector.Log

open Disk

variable {disk disk' moved opened : Disk} {active rotated : String} {activeAt rotatedAt place : Place}
  {handle : FileHandle} {content previous : Option Bytes} {threshold : Nat}

-- Without any plan a log starts in the file that is opened, after what is there was moved.
theorem start_of_disk
    (hsize : disk.size active = content.elim (.error .notFound) fun bytes => .ok bytes.length)
    (hkept : content.getD [] = [] → moved = disk)
    (hmoved : content.getD [] ≠ [] → disk.rename active rotated = .ok moved)
    (hopen : moved.openFile active fileMode = .ok (handle, opened))
    (hmode : opened.setMode handle fileMode = .ok disk') :
    (start ({ disk } : FaultyDisk) active rotated threshold).value =
      (.ok { file := some handle, bytesWritten := 0, threshold, active, rotated },
        { disk := disk' }) := by
  have hcreated : (create ({ disk := moved } : FaultyDisk) active rotated threshold).value =
      (.ok { file := some handle, bytesWritten := 0, threshold, active, rotated },
        { disk := disk' }) := by
    unfold create
    simp only [Traced.value_bind, FaultyDisk.openFile_of_disk hopen hmode, Traced.value_pure]
  have hsized : FileSystem.size ({ disk } : FaultyDisk) active =
      (content.elim (.error .notFound) fun bytes => .ok bytes.length, { disk }) := by
    rw [← hsize]
    rfl
  unfold start
  rw [hsized]
  rcases content with _ | _ | ⟨byte, bytes⟩
  · obtain rfl := hkept rfl
    exact hcreated
  · obtain rfl := hkept rfl
    exact hcreated
  · simp only [Option.elim_some, List.length_cons]
    rw [FaultyDisk.rename_of_disk (hmoved (by simp))]
    exact hcreated

theorem start_of_holds (h : disk.Holds active rotated activeAt rotatedAt content previous)
    (threshold : Nat) :
    ∃ log disk', (start ({ disk } : FaultyDisk) active rotated threshold).value =
        (.ok log, { disk := disk' }) ∧
      log.threshold = threshold ∧ log.Splits { disk := disk' } activeAt rotatedAt
        ⟨[], if content.getD [] = [] then previous else content⟩ := by
  have hsize := h.site.size
  rw [h.current] at hsize
  by_cases hempty : content.getD [] = []
  · obtain ⟨handle, opened, hopen, hserves⟩ := h.openFile hempty fileMode
    obtain ⟨disk', hmode, hserves'⟩ := hserves.setMode fileMode
    rw [if_pos hempty]
    exact ⟨_, disk', start_of_disk hsize (fun _ => rfl) (absurd hempty) hopen hmode, rfl,
      ⟨handle, rfl, hserves'⟩, rfl⟩
  · cases content with
    | none => exact absurd rfl hempty
    | some bytes =>
      obtain ⟨moved, hrename, hmoved⟩ := h.rename_of_some
      obtain ⟨handle, opened, hopen, hserves⟩ := hmoved.openFile rfl fileMode
      obtain ⟨disk', hmode, hserves'⟩ := hserves.setMode fileMode
      rw [if_neg hempty]
      exact ⟨_, disk', start_of_disk hsize (fun h => absurd h hempty) (fun _ => hrename) hopen hmode,
        rfl, ⟨handle, rfl, hserves'⟩, rfl⟩

theorem start_of_shared (h : disk.Shared active rotated place) (threshold : Nat) :
    ∃ log disk', (start ({ disk } : FaultyDisk) active rotated threshold).value =
        (.ok log, { disk := disk' }) ∧
      log.threshold = threshold ∧
      log.Winds disk' place (.rewound ((disk.contentAt? place).getD [])) := by
  obtain ⟨handle, opened, disk', hopen, hmode, hshared, hwrites⟩ := h.openFile fileMode
  have hsize := h.active.size h.wellFormed h.free
  have hrename : (disk.contentAt? place).getD [] ≠ [] → disk.rename active rotated = .ok disk := by
    intro hheld
    cases hcontent : disk.contentAt? place with
    | none =>
      rw [hcontent] at hheld
      exact absurd rfl hheld
    | some content => exact h.rename_of_some hcontent
  exact ⟨_, disk', start_of_disk hsize (fun _ => rfl) hrename hopen hmode, rfl, hshared,
    ⟨handle, rfl, hwrites⟩, rfl⟩

theorem untroubled_of_disk (disk : Disk) (records : List Bytes) :
    Untroubled ({ disk } : FaultyDisk) records :=
  ⟨fun _ _ _ => .unplanned, by simp, by simp⟩

-- With a valid configuration and without failures, all depends on where the two paths lead.
-- If they lead to different files the log keeps two generations. If they lead to one file,
-- each rotation goes back to its start, and the next records are written over the first
-- ones. That the paths have different components does not exclude this, unless they start in
-- the same way and never go up.
theorem performAll_append_of_validate {config : Config} (hvalid : config.validate = .ok ())
    (wf : disk.WellFormed) (hactive : disk.LeadsTo config.log.path activeAt)
    (hrotated : disk.LeadsTo config.log.rotatedPath rotatedAt)
    (hactiveFree : disk.entryAt? activeAt ≠ some .directory)
    (hrotatedFree : disk.entryAt? rotatedAt ≠ some .directory) (records : List Bytes) :
    let content := disk.contentAt? activeAt
    let previous := if content.getD [] = [] then disk.contentAt? rotatedAt else content
    let split := splitAll config.log.maxBytes previous records
    let tape := records.foldl (Tape.append config.log.maxBytes) (.rewound (content.getD []))
    ∃ log files log' files',
      (start ({ disk } : FaultyDisk) config.log.path config.log.rotatedPath config.log.maxBytes).value =
        (.ok log, files) ∧
      (log.performAll files (records.map .append)).value =
        (records.map fun _ => .ok (), log', files') ∧
      (activeAt ≠ rotatedAt →
        (files'.disk.contentAt? activeAt, files'.disk.contentAt? rotatedAt, log'.bytesWritten) =
          (some split.current, split.previous, split.current.length)) ∧
      (activeAt = rotatedAt →
        (files'.disk.contentAt? activeAt, log'.bytesWritten) = (some tape.content, tape.position)) ∧
      ((Path.components config.log.path).absolute = (Path.components config.log.rotatedPath).absolute →
        (Path.components config.log.path).startsHere =
          (Path.components config.log.rotatedPath).startsHere →
        Path.above ∉ Path.names config.log.path → Path.above ∉ Path.names config.log.rotatedPath →
        activeAt ≠ rotatedAt) := by
  intro content previous split tape
  have hspelled : (Path.components config.log.path).absolute =
      (Path.components config.log.rotatedPath).absolute →
      (Path.components config.log.path).startsHere =
        (Path.components config.log.rotatedPath).startsHere →
      Path.above ∉ Path.names config.log.path → Path.above ∉ Path.names config.log.rotatedPath →
      activeAt ≠ rotatedAt := by
    rintro habsolute hhere hplain hplain' rfl
    exact Config.components_ne_of_validate hvalid
      (hactive.components_eq hrotated hplain hplain' habsolute hhere)
  by_cases hsame : activeAt = rotatedAt
  · -- one file: the log winds it back instead of moving it aside
    subst hsame
    obtain ⟨log, disk₁, hstarted, hthreshold, hwinds⟩ :=
      start_of_shared ⟨wf, hactive, hrotated, hactiveFree⟩ config.log.maxBytes
    obtain ⟨log', disk', hrun, hwinds'⟩ := hwinds.performAll records
    rw [hthreshold] at hwinds'
    obtain ⟨handle, -, hwrites⟩ := hwinds'.writes
    refine ⟨log, _, log', _, hstarted, hrun, fun hne => absurd rfl hne, fun _ => ?_, hspelled⟩
    rw [hwrites.contentAt?, hwinds'.counted]
  · obtain ⟨log, disk₁, hstarted, hthreshold, hsplits⟩ := start_of_holds
      ⟨⟨wf, hactive, hrotated, hsame, hactiveFree, hrotatedFree⟩, rfl, rfl⟩ config.log.maxBytes
    obtain ⟨log', files', hrun, ⟨handle, -, hserves⟩, hcounted⟩ :=
      hsplits.performAll (untroubled_of_disk disk₁ records)
    rw [hthreshold] at hserves hcounted
    refine ⟨log, _, log', files', hstarted, hrun, fun _ => ?_, fun h => absurd h hsame, hspelled⟩
    rw [hserves.writes.contentAt?, hserves.previous, hcounted]
    rfl

-- Two records fill the first generation, the third one starts the second.
theorem performAll_append_of_validate_two_files :
    let config : Config := { log := { path := "log", rotatedPath := "old", maxBytes := 4 } }
    let activeAt : Place := [['w', 'o', 'r', 'k'], ['l', 'o', 'g']]
    let rotatedAt : Place := [['w', 'o', 'r', 'k'], ['o', 'l', 'd']]
    config.validate = .ok () ∧ ∃ log files log' files',
      (start ({ disk := .empty } : FaultyDisk) "log" "old" 4).value = (.ok log, files) ∧
      (log.performAll files ([[65], [66, 67, 68, 69], [70]].map .append)).value =
        ([.ok (), .ok (), .ok ()], log', files') ∧
      (files'.disk.contentAt? activeAt, files'.disk.contentAt? rotatedAt, log'.bytesWritten) =
        (some [70, 10], some [65, 10, 66, 67, 68, 69, 10], 2) := by
  have hvalid : Config.validate { log := { path := "log", rotatedPath := "old", maxBytes := 4 } } =
      .ok () := rfl
  intro config activeAt rotatedAt
  have site := logSite_empty
  obtain ⟨log, files, log', files', hstarted, hrun, htwo, -, hne⟩ := performAll_append_of_validate hvalid
    site.wellFormed site.active site.rotated site.activeFree site.rotatedFree
    [[65], [66, 67, 68, 69], [70]]
  exact ⟨hvalid, log, files, log', files', hstarted, hrun,
    htwo (hne rfl rfl (by decide) (by decide))⟩

-- One file under two names: the second record is written over the first one.
theorem performAll_append_overwrites :
    let config : Config := { log := { path := "log", rotatedPath := "./log", maxBytes := 4 } }
    let activeAt : Place := [['w', 'o', 'r', 'k'], ['l', 'o', 'g']]
    config.validate = .ok () ∧ ∃ log files log' files',
      (start ({ disk := .empty } : FaultyDisk) "log" "./log" 4).value = (.ok log, files) ∧
      (log.performAll files ([[65, 66, 67, 68], [69]].map .append)).value =
        ([.ok (), .ok ()], log', files') ∧
      files'.disk.contentAt? activeAt = some [69, 10, 67, 68, 10] := by
  have hvalid : Config.validate { log := { path := "log", rotatedPath := "./log", maxBytes := 4 } } =
      .ok () := rfl
  have hdotted : empty.LeadsTo "./log" [['w', 'o', 'r', 'k'], ['l', 'o', 'g']] :=
    ⟨[['w', 'o', 'r', 'k']], ['l', 'o', 'g'], rfl, by decide, rfl⟩
  intro config activeAt
  obtain ⟨log, disk, hstarted, hthreshold, hwinds⟩ := start_of_shared
    ⟨wellFormed_empty, logSite_empty.active, hdotted, logSite_empty.activeFree⟩ 4
  obtain ⟨log', disk', hrun, hwinds'⟩ := hwinds.performAll [[65, 66, 67, 68], [69]]
  rw [hthreshold] at hwinds'
  obtain ⟨handle, -, hwrites⟩ := hwinds'.writes
  exact ⟨hvalid, log, _, log', _, hstarted, hrun, hwrites.contentAt?⟩

end AuditCollector.Log
