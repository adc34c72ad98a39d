import AuditCollector.Proofs.Log.Receipts

namespace AuditCollector

variable {active rotated : String} {activeAt rotatedAt : Place}

namespace Disk

variable {disk disk' : Disk}

-- The paths lead to two different names. What has the active one is a file, if there is anything;
-- the rotated one may also be a directory's.
structure TwoNames (disk : Disk) (active rotated : String) (activeAt rotatedAt : Place) : Prop where
  wellFormed : disk.WellFormed
  active : disk.LeadsTo active activeAt
  rotated : disk.LeadsTo rotated rotatedAt
  ne : activeAt ≠ rotatedAt
  activeFree : disk.entryAt? activeAt ≠ some .directory

theorem LogSite.twoNames (site : disk.LogSite active rotated activeAt rotatedAt) :
    disk.TwoNames active rotated activeAt rotatedAt :=
  ⟨site.wellFormed, site.active, site.rotated, site.ne, site.activeFree⟩

namespace TwoNames

variable (h : disk.TwoNames active rotated activeAt rotatedAt)

include h

theorem logSite (hrotated : disk.entryAt? rotatedAt ≠ some .directory) :
    disk.LogSite active rotated activeAt rotatedAt :=
  ⟨h.wellFormed, h.active, h.rotated, h.ne, h.activeFree, hrotated⟩

theorem of_sameNames (hsame : disk.SameNames disk') :
    disk'.TwoNames active rotated activeAt rotatedAt := by
  refine ⟨hsame.wellFormed h.wellFormed, hsame.leadsTo h.active, hsame.leadsTo h.rotated, h.ne, ?_⟩
  rw [hsame.entryAt?]
  exact h.activeFree

theorem of_sameBut (hsame : disk.SameBut disk' activeAt) :
    disk'.TwoNames active rotated activeAt rotatedAt :=
  ⟨hsame.wellFormed, h.active.mono hsame.working hsame.directory,
    h.rotated.mono hsame.working hsame.directory, h.ne, hsame.free⟩

-- No file can take the name of a directory.
theorem rename_of_directory (hrotated : disk.entryAt? rotatedAt = some .directory) :
    ∃ error, disk.rename active rotated = .error error := by
  obtain ⟨source, hsource, hname, hslash, hplace, hlookUp⟩ := h.active.exists_target
  obtain ⟨destination, hdestination, hname', hslash', hplace', hlookUp'⟩ := h.rotated.exists_target
  unfold Disk.rename
  rw [if_neg (by simpa using h.rotated.no_nul), hsource, hdestination]
  simp only [bind, Except.bind, hname, hname', Bool.or_false, Bool.false_eq_true, if_false, hlookUp]
  cases hmoved : disk.entryAt? activeAt with
  | none => exact ⟨.notFound, rfl⟩
  | some moved =>
    cases moved with
    | directory => exact absurd hmoved h.activeFree
    | file number =>
      simp only [hlookUp', hrotated, relocate, hplace, hplace', hslash, hslash', Bool.or_false,
        Bool.false_eq_true, and_false, if_false, reduceCtorEq, false_and, h.ne]
      split
      · exact ⟨_, rfl⟩
      · exact ⟨_, rfl⟩

-- A file that is there takes the rotated name, unless a directory has it.
theorem rename_of_some {current : Bytes} (hcurrent : disk.contentAt? activeAt = some current) :
    (∃ error, disk.rename active rotated = .error error) ∨
      ∃ disk', disk.rename active rotated = .ok disk' ∧
        disk'.TwoNames active rotated activeAt rotatedAt ∧
        disk'.held activeAt rotatedAt = ⟨none, some current⟩ := by
  by_cases hrotated : disk.entryAt? rotatedAt = some .directory
  · exact .inl (h.rename_of_directory hrotated)
  · have hholds : disk.Holds active rotated activeAt rotatedAt (some current) _ :=
      ⟨h.logSite hrotated, hcurrent, rfl⟩
    obtain ⟨disk', hrename, hmoved⟩ := hholds.rename_of_some
    exact .inr ⟨disk', hrename, hmoved.site.twoNames, hmoved.held⟩

-- The active file is there once it is opened, and holds what it did.
theorem openFile (mode : Nat) :
    ∃ handle disk', disk.openFile active mode = .ok (handle, disk') ∧
      disk'.TwoNames active rotated activeAt rotatedAt ∧
      disk'.WritesAt handle activeAt ((disk.contentAt? activeAt).getD []) 0 ∧
      disk'.held activeAt rotatedAt =
        ⟨some ((disk.contentAt? activeAt).getD []), disk.contentAt? rotatedAt⟩ := by
  obtain ⟨handle, disk', hopen, hsame, hwrites⟩ := h.active.openFile h.wellFormed h.activeFree mode
  refine ⟨handle, disk', hopen, h.of_sameBut hsame, hwrites, ?_⟩
  rw [held, hwrites.contentAt?, hsame.content rotatedAt h.ne.symm]

end TwoNames

end Disk

namespace FaultyDisk

-- A rename does what it does on the disk, or it fails and nothing changes there.
theorem rename_cases (faulty : FaultyDisk) (old new : String) :
    (∃ error files, FileSystem.rename faulty old new = (.error error, files) ∧
        files.disk = faulty.disk) ∨
      ∃ files, FileSystem.rename faulty old new = (.ok (), files) ∧
        faulty.disk.rename old new = .ok files.disk := by
  change (∃ error files, faulty.rename old new = _ ∧ _) ∨ ∃ files, faulty.rename old new = _ ∧ _
  unfold FaultyDisk.rename
  split
  · exact .inl ⟨_, _, rfl, rfl⟩
  · cases hrename : faulty.disk.rename old new with
    | error error => exact .inl ⟨_, _, rfl, rfl⟩
    | ok disk' => exact .inr ⟨_, rfl, rfl⟩

theorem disk_of_rename_error {faulty files : FaultyDisk} {old new : String} {error : IoError}
    (h : FileSystem.rename faulty old new = (.error error, files)) : files.disk = faulty.disk := by
  rcases rename_cases faulty old new with ⟨error', files', hfailed, hdisk⟩ | ⟨files', hrenamed, -⟩
  · cases h.symm.trans hfailed
    exact hdisk
  · cases h.symm.trans hrenamed

theorem disk_of_rename_ok {faulty files : FaultyDisk} {old new : String}
    (h : FileSystem.rename faulty old new = (.ok (), files)) :
    faulty.disk.rename old new = .ok files.disk := by
  rcases rename_cases faulty old new with ⟨error', files', hfailed, -⟩ | ⟨files', hrenamed, hdisk⟩
  · cases h.symm.trans hfailed
  · cases h.symm.trans hrenamed
    exact hdisk

variable {faulty : FaultyDisk} (h : faulty.disk.TwoNames active rotated activeAt rotatedAt)

include h

theorem size_of_twoNames :
    (∃ error files, FileSystem.size faulty active = (.error error, files) ∧ files.disk = faulty.disk) ∨
      ∃ content files, faulty.disk.contentAt? activeAt = some content ∧
        FileSystem.size faulty active = (.ok content.length, files) ∧ files.disk = faulty.disk := by
  have hsize := h.active.size h.wellFormed h.activeFree
  change (∃ error files, faulty.size active = _ ∧ _) ∨ ∃ content files, _ ∧ faulty.size active = _ ∧ _
  unfold FaultyDisk.size
  split
  · exact .inl ⟨_, _, rfl, rfl⟩
  · rw [hsize]
    cases hcontent : faulty.disk.contentAt? activeAt with
    | none => exact .inl ⟨_, _, rfl, rfl⟩
    | some content => exact .inr ⟨content, _, rfl, rfl, rfl⟩

theorem rename_of_twoNames {current : Bytes}
    (hcurrent : faulty.disk.contentAt? activeAt = some current) :
    (∃ error files, FileSystem.rename faulty active rotated = (.error error, files) ∧
        files.disk = faulty.disk) ∨
      ∃ files, FileSystem.rename faulty active rotated = (.ok (), files) ∧
        files.disk.TwoNames active rotated activeAt rotatedAt ∧
        files.disk.held activeAt rotatedAt = ⟨none, some current⟩ := by
  rcases rename_cases faulty active rotated with hfailed | ⟨files, hrename, hdisk⟩
  · exact .inl hfailed
  · rcases h.rename_of_some hcurrent with ⟨error, herror⟩ | ⟨disk', hmoved, hnames, hheld⟩
    · rw [hdisk] at herror
      cases herror
    · obtain rfl := Except.ok.inj (hdisk.symm.trans hmoved)
      exact .inr ⟨files, hrename, hnames, hheld⟩

-- Whether its mode can be set or not, a file that is opened holds what it did.
theorem openFile_of_twoNames :
    (∃ error files, (Log.openFile faulty active).value = (.error error, files) ∧
        files.disk = faulty.disk) ∨
      ∃ handle files, (Log.openFile faulty active).value = (.ok handle, files) ∧
        files.disk.TwoNames active rotated activeAt rotatedAt ∧
        files.disk.held activeAt rotatedAt =
          ⟨some ((faulty.disk.contentAt? activeAt).getD []), faulty.disk.contentAt? rotatedAt⟩ := by
  obtain ⟨handle, opened, hopen, hnames, hwrites, hheld⟩ := h.openFile Log.fileMode
  obtain ⟨disk', hmode, hsame, -, hcontents⟩ := hwrites.setMode Log.fileMode
  rcases openFile_of_disk_ok hopen hmode with
    ⟨error, plan, -, hfailed⟩ | ⟨disk'', modes, hdisk, hopened⟩
  · exact .inl ⟨error, _, hfailed, rfl⟩
  · refine .inr ⟨handle, _, hopened, ?_⟩
    rcases hdisk with rfl | rfl
    · exact ⟨hnames, hheld⟩
    · refine ⟨hnames.of_sameNames hsame, ?_⟩
      rw [← hheld, Disk.held, hcontents, hcontents, Disk.held]

end FaultyDisk

end AuditCollector
