import AuditCollector.Disk.Faults
import AuditCollector.Proofs.Disk.Serving

namespace AuditCollector

namespace Disk

variable {disk disk' : Disk} {active rotated path : String} {place : Place} {handle : FileHandle}

-- Both paths lead to one name that a file can have.
structure Shared (disk : Disk) (active rotated : String) (place : Place) : Prop where
  wellFormed : disk.WellFormed
  active : disk.LeadsTo active place
  rotated : disk.LeadsTo rotated place
  free : disk.entryAt? place ≠ some .directory

theorem Shared.of_sameNames (h : disk.SameNames disk') (shared : disk.Shared active rotated place) :
    disk'.Shared active rotated place := by
  refine ⟨h.wellFormed shared.wellFormed, h.leadsTo shared.active, h.leadsTo shared.rotated, ?_⟩
  rw [h.entryAt?]
  exact shared.free

theorem Shared.of_sameBut (h : disk.SameBut disk' place) (shared : disk.Shared active rotated place) :
    disk'.Shared active rotated place :=
  ⟨h.wellFormed, shared.active.mono h.working h.directory, shared.rotated.mono h.working h.directory,
    h.free⟩

-- A file that is there is renamed to itself, and nothing happens.
theorem Shared.rename_of_some (shared : disk.Shared active rotated place) {content : Bytes}
    (hcontent : disk.contentAt? place = some content) : disk.rename active rotated = .ok disk := by
  obtain ⟨source, hsource, hname, hslash, hplace, hlookUp⟩ := shared.active.exists_target
  obtain ⟨destination, hdestination, hname', hslash', hplace', hlookUp'⟩ :=
    shared.rotated.exists_target
  have hinside : isInside place place = false :=
    shared.active.not_isInside shared.wellFormed shared.free
  unfold Disk.rename
  rw [if_neg (by simpa using shared.rotated.no_nul), hsource, hdestination]
  simp only [bind, Except.bind, hname, hname', Bool.or_false, Bool.false_eq_true, if_false, hlookUp]
  cases hentry : disk.entryAt? place with
  | none =>
    rw [contentAt?_of_free hentry] at hcontent
    cases hcontent
  | some entry =>
    simp only [hlookUp', hentry, relocate, hplace, hplace', hslash, hslash', hinside, Bool.or_false,
      Bool.false_eq_true, and_false, if_false, if_true]

-- The log opens its file at the start, whatever it holds.
theorem Shared.openFile (shared : disk.Shared active rotated place) (mode : Nat) :
    ∃ handle opened disk', disk.openFile active mode = .ok (handle, opened) ∧
      opened.setMode handle mode = .ok disk' ∧ disk'.Shared active rotated place ∧
      disk'.WritesAt handle place ((disk.contentAt? place).getD []) 0 := by
  obtain ⟨handle, opened, hopen, hsame, hwrites⟩ :=
    shared.active.openFile shared.wellFormed shared.free mode
  obtain ⟨disk', hmode, hnames, hwrites', -⟩ := hwrites.setMode mode
  exact ⟨handle, opened, disk', hopen, hmode, (shared.of_sameBut hsame).of_sameNames hnames, hwrites'⟩

end Disk

namespace FaultyDisk

variable {disk disk' opened : Disk} {handle : FileHandle} {active rotated path : String}

-- Without any plan, calls do what the disk does.
theorem write_of_disk {data : Bytes} (h : disk.write handle data = .ok disk') :
    FileSystem.write ({ disk } : FaultyDisk) handle data = (.ok data.length, { disk := disk' }) := by
  change FaultyDisk.write _ _ _ = _
  simp [FaultyDisk.write, settle, h, Except.map]

theorem rename_of_disk (h : disk.rename active rotated = .ok disk') :
    FileSystem.rename ({ disk } : FaultyDisk) active rotated = (.ok (), { disk := disk' }) := by
  change FaultyDisk.rename _ _ _ = _
  simp [FaultyDisk.rename, settle, h, Except.map]

theorem openFile_of_disk (hopen : disk.openFile path Log.fileMode = .ok (handle, opened))
    (hmode : opened.setMode handle Log.fileMode = .ok disk') :
    (Log.openFile ({ disk } : FaultyDisk) path).value = (.ok handle, { disk := disk' }) := by
  have hopened : FileSystem.openFile ({ disk } : FaultyDisk) path Log.fileMode =
      (.ok handle, { disk := opened }) := by
    change FaultyDisk.openFile _ _ _ = _
    simp [FaultyDisk.openFile, settle, hopen]
  rw [Log.openFile_of_ok hopened]
  change (_, (FaultyDisk.setMode _ handle Log.fileMode).2) = _
  simp [FaultyDisk.setMode, settle, hmode, Except.map]

end FaultyDisk

end AuditCollector
