import AuditCollector.Proofs.Disk.Tree

namespace AuditCollector.Disk

variable {disk disk' : Disk} {place old new gone : Place} {active rotated : String}
  {activeAt rotatedAt : Place} {path : String} {handle : FileHandle} {content : Bytes}
  {number position : Nat}

-- What the thing a name stands for holds. A directory holds no bytes.
def entryContent? (files : List StoredFile) : Entry → Option Bytes
  | .directory => none
  | .file number => files[number]?.map (·.content)

-- What the file at a place holds, if there is one.
def contentAt? (disk : Disk) (place : Place) : Option Bytes :=
  (disk.entryAt? place).bind (entryContent? disk.files)

theorem contentAt?_of_file (h : disk.entryAt? place = some (.file number)) :
    disk.contentAt? place = disk.files[number]?.map (·.content) := by
  rw [contentAt?, h]
  rfl

theorem contentAt?_of_free (h : disk.entryAt? place = none) : disk.contentAt? place = none := by
  rw [contentAt?, h]
  rfl

-- A place whose name and file are as before holds what it held.
theorem contentAt?_congr (hentry : disk'.entryAt? place = disk.entryAt? place)
    (hfiles : ∀ number, disk.entryAt? place = some (.file number) →
      disk'.files[number]? = disk.files[number]?) :
    disk'.contentAt? place = disk.contentAt? place := by
  rw [contentAt?, contentAt?, hentry]
  cases h : disk.entryAt? place with
  | none => rfl
  | some entry =>
    cases entry with
    | directory => rfl
    | file number => simp [entryContent?, hfiles number h]

private theorem lookup_removed (entries : List (Place × Entry))
    (hinside : ∀ entry ∈ entries, isInside entry.1 gone = false) (place : Place) :
    (entries.filter fun entry => entry.1 ≠ gone && !isInside entry.1 gone).lookup place =
      if place = gone then none else entries.lookup place := by
  induction entries with
  | nil => simp
  | cons entry entries ih =>
    have hhead := hinside entry (by simp)
    have htail := ih fun entry hentry => hinside entry (by simp [hentry])
    by_cases hgone : entry.1 = gone
    · rw [List.filter_cons_of_neg (by simp [hgone]), htail]
      split
      · rfl
      · rename_i hplace
        rw [List.lookup_cons, beq_eq_false_iff_ne.mpr (by rw [hgone]; exact hplace)]
    · rw [List.filter_cons_of_pos (by simp [hgone, hhead]), List.lookup_cons, List.lookup_cons, htail]
      by_cases hplace : place = gone
      · simp [hplace, beq_eq_false_iff_ne.mpr (Ne.symm hgone)]
      · simp [hplace]

private theorem lookup_moved (entries : List (Place × Entry))
    (hinside : ∀ entry ∈ entries, isInside entry.1 old = false)
    (hnew : entries.lookup new = none) (place : Place) :
    (entries.map fun entry =>
      if entry.1 = old || isInside entry.1 old then (new ++ entry.1.drop old.length, entry.2)
      else entry).lookup place =
      if place = new then entries.lookup old
      else if place = old then none else entries.lookup place := by
  induction entries with
  | nil => simp
  | cons entry entries ih =>
    obtain ⟨name, stands⟩ := entry
    have hhead := hinside (name, stands) (by simp)
    have hfree := List.lookup_eq_none_iff.mp hnew
    have hname : name ≠ new := fun h => by
      have := hfree (name, stands) (by simp)
      simp [h] at this
    have htail := ih (fun entry hentry => hinside entry (by simp [hentry]))
      (List.lookup_eq_none_iff.mpr fun entry hentry => hfree entry (by simp [hentry]))
    rw [List.map_cons, List.lookup_cons]
    by_cases hold : name = old
    · subst hold
      by_cases hplace : place = new
      · simp [hplace]
      · simp only [decide_true, Bool.true_or, if_true, List.drop_length, List.append_nil,
          beq_eq_false_iff_ne.mpr hplace, htail, hplace, if_false, List.lookup_cons]
        by_cases hself : place = name
        · simp [hself]
        · simp [hself, beq_eq_false_iff_ne.mpr hself]
    · rw [if_neg (by simp [hold, hhead]), htail]
      by_cases hplace : place = new
      · simp [hplace, List.lookup_cons, beq_eq_false_iff_ne.mpr (Ne.symm hname),
          beq_eq_false_iff_ne.mpr (Ne.symm hold)]
      · by_cases hself : place = name
        · simp [hself, hname, hold]
        · simp [hplace, List.lookup_cons, beq_eq_false_iff_ne.mpr hself]

-- The disk after a file has been moved over whatever file had the new name.
def moveOver (disk : Disk) (old new : Place) : Disk := (disk.removeAt new).moveAt old new

@[simp] theorem files_moveOver : (disk.moveOver old new).files = disk.files := rfl

theorem WellFormed.entryAt?_moveOver (wf : disk.WellFormed)
    (hold : disk.entryAt? old ≠ some .directory) (hnew : disk.entryAt? new ≠ some .directory)
    (hne : old ≠ new) (place : Place) :
    (disk.moveOver old new).entryAt? place =
      if place = new then disk.entryAt? old
      else if place = old then none else disk.entryAt? place := by
  have hold' : old ≠ [] := by rintro rfl; exact hold rfl
  have hnew' : new ≠ [] := by rintro rfl; exact hnew rfl
  have hremoved := lookup_removed disk.entries (fun _ h => wf.not_inside_of_mem hnew h)
  have hmoved := lookup_moved
    (disk.entries.filter fun entry => entry.1 ≠ new && !isInside entry.1 new)
    (fun _ h => wf.not_inside_of_mem hold (List.mem_filter.mp h).1)
    (by rw [hremoved, if_pos rfl]) place
  rw [hremoved, hremoved, if_neg hne] at hmoved
  by_cases hnil : place = []
  · subst hnil
    simp [hold'.symm, hnew'.symm]
  · rw [entryAt?_of_ne_nil hnil, entryAt?_of_ne_nil hnil, entryAt?_of_ne_nil hold']
    refine hmoved.trans ?_
    split
    · rfl
    · rfl

theorem WellFormed.directory_moveOver (wf : disk.WellFormed)
    (hold : disk.entryAt? old ≠ some .directory) (hnew : disk.entryAt? new ≠ some .directory)
    (hne : old ≠ new) (place : Place) (h : disk.entryAt? place = some .directory) :
    (disk.moveOver old new).entryAt? place = some .directory := by
  rw [wf.entryAt?_moveOver hold hnew hne, if_neg (by rintro rfl; exact hnew h),
    if_neg (by rintro rfl; exact hold h), h]

-- Every file of the new tree was there before, under the old name if it was moved.
theorem WellFormed.file_before_move (wf : disk.WellFormed)
    (hold : disk.entryAt? old ≠ some .directory) (hnew : disk.entryAt? new ≠ some .directory)
    (hne : old ≠ new) (h : (disk.moveOver old new).entryAt? place = some (.file number)) :
    place ≠ old ∧ disk.entryAt? (if place = new then old else place) = some (.file number) := by
  rw [wf.entryAt?_moveOver hold hnew hne] at h
  by_cases hplace : place = new
  · rw [if_pos hplace] at h ⊢
    exact ⟨hplace ▸ hne.symm, h⟩
  · rw [if_neg hplace] at h ⊢
    by_cases hgone : place = old
    · rw [if_pos hgone] at h
      cases h
    · rw [if_neg hgone] at h
      exact ⟨hgone, h⟩

-- The names stay a tree: a moved file is in the directory it was moved to.
theorem WellFormed.moveOver (wf : disk.WellFormed)
    (hold : disk.entryAt? old ≠ some .directory) (hnew : disk.entryAt? new ≠ some .directory)
    (hne : old ≠ new) (hdirectory : disk.entryAt? new.dropLast = some .directory) :
    (disk.moveOver old new).WellFormed := by
  have hentry := wf.entryAt?_moveOver hold hnew hne
  have hkeep := wf.directory_moveOver hold hnew hne
  refine ⟨?_, ?_, ?_, ?_⟩
  · exact hkeep _ wf.working
  · intro place entry h
    rw [hentry] at h
    split at h
    · rename_i hplace
      rw [hplace]
      exact hkeep _ hdirectory
    split at h
    · cases h
    · exact hkeep _ (wf.parent _ _ h)
  · intro place number h
    exact wf.stored _ _ (wf.file_before_move hold hnew hne h).2
  · intro place other number h h'
    obtain ⟨hplace, hbefore⟩ := wf.file_before_move hold hnew hne h
    obtain ⟨hother, hbefore'⟩ := wf.file_before_move hold hnew hne h'
    have hsame := wf.unlinked _ _ _ hbefore hbefore'
    split at hsame
    · rename_i hmoved
      split at hsame
      · rename_i hmoved'
        rw [hmoved, hmoved']
      · exact absurd hsame.symm hother
    · split at hsame
      · exact absurd hsame hplace
      · exact hsame

theorem removeAt_of_free (wf : disk.WellFormed) (hgone : disk.entryAt? gone = none) :
    disk.removeAt gone = disk := by
  have hne : gone ≠ [] := by
    rintro rfl
    simp at hgone
  rw [entryAt?_of_ne_nil hne] at hgone
  have hkept : disk.entries.filter (fun entry => entry.1 ≠ gone && !isInside entry.1 gone)
      = disk.entries := by
    apply List.filter_eq_self.mpr
    intro entry hentry
    have hinside : isInside entry.1 gone = false :=
      wf.not_inside_of_mem (by rw [entryAt?_of_ne_nil hne, hgone]; simp) hentry
    have hplace := List.lookup_eq_none_iff.mp hgone entry hentry
    simp only [hinside, Bool.not_false, Bool.and_true, decide_eq_true_eq]
    rintro rfl
    simp at hplace
  rw [removeAt, hkept]

-- Two different names that files can have, with the paths that lead to them.
structure LogSite (disk : Disk) (active rotated : String) (activeAt rotatedAt : Place) : Prop where
  wellFormed : disk.WellFormed
  active : disk.LeadsTo active activeAt
  rotated : disk.LeadsTo rotated rotatedAt
  ne : activeAt ≠ rotatedAt
  activeFree : disk.entryAt? activeAt ≠ some .directory
  rotatedFree : disk.entryAt? rotatedAt ≠ some .directory

theorem logSite_empty : empty.LogSite "log" "old" [['w', 'o', 'r', 'k'], ['l', 'o', 'g']]
    [['w', 'o', 'r', 'k'], ['o', 'l', 'd']] :=
  ⟨wellFormed_empty,
    leadsTo_name (by decide) (by decide) (by decide) (by decide) (by decide) (by decide),
    leadsTo_name (by decide) (by decide) (by decide) (by decide) (by decide) (by decide),
    by decide, by decide, by decide⟩

-- Whatever leaves the directories alone leaves both paths where they lead.
theorem LogSite.mono (site : disk.LogSite active rotated activeAt rotatedAt)
    (wf : disk'.WellFormed) (hworking : disk'.workingDirectory = disk.workingDirectory)
    (hkeep : ∀ place, disk.entryAt? place = some .directory →
      disk'.entryAt? place = some .directory)
    (hactive : disk'.entryAt? activeAt ≠ some .directory)
    (hrotated : disk'.entryAt? rotatedAt ≠ some .directory) :
    disk'.LogSite active rotated activeAt rotatedAt :=
  ⟨wf, site.active.mono hworking hkeep, site.rotated.mono hworking hkeep, site.ne, hactive, hrotated⟩

theorem LogSite.rename_eq (site : disk.LogSite active rotated activeAt rotatedAt) :
    disk.rename active rotated =
      match disk.entryAt? activeAt with
      | none => .error .notFound
      | some _ => .ok (disk.moveOver activeAt rotatedAt) := by
  obtain ⟨source, hsource, hname, hslash, hplace, hlookUp⟩ := site.active.exists_target
  obtain ⟨destination, hdestination, hname', hslash', hplace', hlookUp'⟩ :=
    site.rotated.exists_target
  have hinside : isInside activeAt rotatedAt = false :=
    site.active.not_isInside site.wellFormed site.rotatedFree
  unfold Disk.rename
  rw [if_neg (by simpa using site.rotated.no_nul), hsource, hdestination]
  simp only [bind, Except.bind, hname, hname', Bool.or_false, Bool.false_eq_true, if_false, hlookUp]
  cases hmoved : disk.entryAt? activeAt with
  | none => rfl
  | some moved =>
    cases moved with
    | directory => exact absurd hmoved site.activeFree
    | file number =>
      simp only [hlookUp', relocate, hplace, hplace', hslash, hslash', Bool.or_false,
        Bool.false_eq_true, and_false, if_false, reduceCtorEq, false_and, hinside, site.ne]
      cases hreplaced : disk.entryAt? rotatedAt with
      | none => simp [moveOver, removeAt_of_free site.wellFormed hreplaced]
      | some replaced =>
        cases replaced with
        | directory => exact absurd hreplaced site.rotatedFree
        | file other => rfl

theorem LogSite.moveOver (site : disk.LogSite active rotated activeAt rotatedAt) :
    (disk.moveOver activeAt rotatedAt).LogSite active rotated activeAt rotatedAt := by
  have wf := site.wellFormed
  have hentry := wf.entryAt?_moveOver site.activeFree site.rotatedFree site.ne
  refine site.mono (wf.moveOver site.activeFree site.rotatedFree site.ne (site.rotated.dropLast wf))
    rfl (wf.directory_moveOver site.activeFree site.rotatedFree site.ne) ?_ ?_
  · rw [hentry, if_neg site.ne, if_pos rfl]
    simp
  · rw [hentry, if_pos rfl]
    exact site.activeFree

theorem LogSite.contentAt?_moveOver (site : disk.LogSite active rotated activeAt rotatedAt)
    (place : Place) :
    (disk.moveOver activeAt rotatedAt).contentAt? place =
      if place = rotatedAt then disk.contentAt? activeAt
      else if place = activeAt then none else disk.contentAt? place := by
  have hentry := site.wellFormed.entryAt?_moveOver site.activeFree site.rotatedFree site.ne place
  rw [contentAt?, hentry, files_moveOver]
  split
  · rfl
  split
  · rfl
  · rfl

-- A call that changes neither the names nor the number of files.
structure SameNames (disk disk' : Disk) : Prop where
  entries : disk'.entries = disk.entries
  working : disk'.workingDirectory = disk.workingDirectory
  length : disk'.files.length = disk.files.length

theorem SameNames.entryAt? (h : disk.SameNames disk') (place : Place) :
    disk'.entryAt? place = disk.entryAt? place := by
  rw [Disk.entryAt?, h.entries, Disk.entryAt?]

theorem SameNames.wellFormed (h : disk.SameNames disk') (wf : disk.WellFormed) :
    disk'.WellFormed := by
  refine ⟨?_, ?_, ?_, ?_⟩
  · rw [h.entryAt?, h.working]; exact wf.working
  · intro place entry; rw [h.entryAt?, h.entryAt?]; exact wf.parent place entry
  · intro place number; rw [h.entryAt?, h.length]; exact wf.stored place number
  · intro place other number; rw [h.entryAt?, h.entryAt?]; exact wf.unlinked place other number

theorem SameNames.leadsTo (h : disk.SameNames disk') (hleads : disk.LeadsTo path place) :
    disk'.LeadsTo path place :=
  hleads.mono h.working fun other hother => (h.entryAt? other).trans hother

theorem SameNames.logSite (h : disk.SameNames disk')
    (site : disk.LogSite active rotated activeAt rotatedAt) :
    disk'.LogSite active rotated activeAt rotatedAt :=
  site.mono (h.wellFormed site.wellFormed) h.working
    (fun place hplace => by rw [h.entryAt?]; exact hplace)
    (by rw [h.entryAt?]; exact site.activeFree) (by rw [h.entryAt?]; exact site.rotatedFree)

-- Within a file, what is written replaces as much of it.
theorem StoredFile.content_overwrite_within (file : StoredFile) {position : Nat}
    (h : position ≤ file.content.length) (data : Bytes) :
    (file.overwrite position data).content =
      file.content.take position ++ data ++ file.content.drop (position + data.length) := by
  by_cases hdata : data = []
  · simp [hdata]
  · rw [StoredFile.content_overwrite file _ hdata, Nat.sub_eq_zero_of_le h, List.replicate_zero,
      List.append_nil]

-- What an open file writes goes to a position within all that the file at the place holds.
def WritesAt (disk : Disk) (handle : FileHandle) (place : Place) (content : Bytes)
    (position : Nat) : Prop :=
  ∃ number stored, disk.entryAt? place = some (.file number) ∧
    disk.files[number]? = some stored ∧ stored.content = content ∧
    disk.descriptors[handle.number]? = some { number, position }

theorem WritesAt.contentAt? (h : disk.WritesAt handle place content position) :
    disk.contentAt? place = some content := by
  obtain ⟨number, stored, hentry, hstored, rfl, -⟩ := h
  rw [contentAt?_of_file hentry, hstored, Option.map_some]

-- Writing changes the file at the place and no other.
theorem WritesAt.write (h : disk.WritesAt handle place content position) (wf : disk.WellFormed)
    (hwithin : position ≤ content.length) (data : Bytes) :
    ∃ disk', disk.write handle data = .ok disk' ∧ disk.SameNames disk' ∧
      disk'.WritesAt handle place
        (content.take position ++ data ++ content.drop (position + data.length))
        (position + data.length) ∧
      ∀ other, other ≠ place → disk'.contentAt? other = disk.contentAt? other := by
  obtain ⟨number, stored, hentry, hstored, rfl, hdescriptor⟩ := h
  simp only [Disk.write, hdescriptor]
  refine ⟨_, rfl, ⟨rfl, rfl, by simp⟩, ?_, ?_⟩
  · refine ⟨number, stored.overwrite position data, hentry, ?_,
      StoredFile.content_overwrite_within stored hwithin data, ?_⟩
    · simp [hstored]
    · have hlt := (List.getElem?_eq_some_iff.mp hdescriptor).1
      simp [hlt]
  · intro other hother
    refine contentAt?_congr rfl ?_
    intro number' hentry'
    have hne : number ≠ number' := by
      rintro rfl
      exact hother (wf.unlinked _ _ _ hentry' hentry)
    simp [hne]

theorem WritesAt.setMode (h : disk.WritesAt handle place content position) (mode : Nat) :
    ∃ disk', disk.setMode handle mode = .ok disk' ∧ disk.SameNames disk' ∧
      disk'.WritesAt handle place content position ∧
      ∀ other, disk'.contentAt? other = disk.contentAt? other := by
  obtain ⟨number, stored, hentry, hstored, rfl, hdescriptor⟩ := h
  simp only [Disk.setMode, hdescriptor]
  refine ⟨_, rfl, ⟨rfl, rfl, by simp⟩, ?_, ?_⟩
  · refine ⟨number, { stored with mode }, hentry, ?_, rfl, hdescriptor⟩
    simp [hstored]
  · intro other
    unfold Disk.contentAt?
    congr 1
    funext entry
    cases entry with
    | directory => rfl
    | file number' =>
      simp only [entryContent?, List.getElem?_modify]
      cases hfile : disk.files[number']? with
      | none => rfl
      | some file =>
        by_cases hsame : number = number'
        · simp [hsame]; rfl
        · simp [hsame]

-- What an open file writes comes right after all that the file at the place holds.
def WritesAtEnd (disk : Disk) (handle : FileHandle) (place : Place) (content : Bytes) : Prop :=
  ∃ number stored, disk.entryAt? place = some (.file number) ∧
    disk.files[number]? = some stored ∧ stored.content = content ∧
    disk.descriptors[handle.number]? = some { number, position := content.length }

theorem writesAtEnd_iff :
    disk.WritesAtEnd handle place content ↔ disk.WritesAt handle place content content.length :=
  Iff.rfl

theorem WritesAtEnd.contentAt? (h : disk.WritesAtEnd handle place content) :
    disk.contentAt? place = some content := (writesAtEnd_iff.mp h).contentAt?

-- Writing adds to the file at the place and to no other.
theorem WritesAtEnd.write (h : disk.WritesAtEnd handle place content) (wf : disk.WellFormed)
    (data : Bytes) :
    ∃ disk', disk.write handle data = .ok disk' ∧ disk.SameNames disk' ∧
      disk'.WritesAtEnd handle place (content ++ data) ∧
      ∀ other, other ≠ place → disk'.contentAt? other = disk.contentAt? other := by
  obtain ⟨disk', hwrite, hsame, hwrites, hother⟩ :=
    (writesAtEnd_iff.mp h).write wf (Nat.le_refl _) data
  refine ⟨disk', hwrite, hsame, ?_, hother⟩
  rw [List.take_length, List.drop_of_length_le (by omega), List.append_nil, ← List.length_append]
    at hwrites
  exact hwrites

theorem WritesAtEnd.setMode (h : disk.WritesAtEnd handle place content) (mode : Nat) :
    ∃ disk', disk.setMode handle mode = .ok disk' ∧ disk.SameNames disk' ∧
      disk'.WritesAtEnd handle place content ∧
      ∀ other, disk'.contentAt? other = disk.contentAt? other :=
  (writesAtEnd_iff.mp h).setMode mode

theorem LeadsTo.size (h : disk.LeadsTo path place) (wf : disk.WellFormed)
    (hfree : disk.entryAt? place ≠ some .directory) :
    disk.size path =
      (disk.contentAt? place).elim (.error .notFound) fun content => .ok content.length := by
  obtain ⟨target, htarget, -, hslash, -, hlookUp⟩ := h.exists_target
  unfold Disk.size find
  rw [htarget]
  simp only [bind, Except.bind, hlookUp]
  cases hentry : disk.entryAt? place with
  | none =>
    rw [contentAt?_of_free hentry]
    rfl
  | some entry =>
    cases entry with
    | directory => exact absurd hentry hfree
    | file number =>
      have hlt := wf.stored _ _ hentry
      rw [contentAt?_of_file hentry, List.getElem?_eq_getElem hlt, Option.map_some]
      simp [pure, Except.pure, hslash, StoredFile.size_bytes, hlt]

theorem LogSite.size (site : disk.LogSite active rotated activeAt rotatedAt) :
    disk.size active =
      (disk.contentAt? activeAt).elim (.error .notFound) fun content => .ok content.length :=
  site.active.size site.wellFormed site.activeFree

theorem entryAt?_addFile (hfree : disk.entryAt? new = none) (mode : Nat) (data : Bytes)
    (place : Place) :
    (disk.addFile new mode data).entryAt? place =
      if place = new then some (.file disk.files.length) else disk.entryAt? place := by
  have hne : new ≠ [] := by
    rintro rfl
    cases hfree
  by_cases hnil : place = []
  · subst hnil
    simp [hne.symm]
  · rw [entryAt?_of_ne_nil hnil, entryAt?_of_ne_nil hnil, addFile, List.lookup_append]
    rw [entryAt?_of_ne_nil hne] at hfree
    by_cases hplace : place = new
    · simp [hplace, hfree]
    · simp [hplace, List.lookup_cons, beq_eq_false_iff_ne.mpr hplace]

theorem directory_addFile (hfree : disk.entryAt? new = none) (mode : Nat) (data : Bytes)
    (place : Place) (h : disk.entryAt? place = some .directory) :
    (disk.addFile new mode data).entryAt? place = some .directory := by
  rw [entryAt?_addFile hfree, if_neg (by rintro rfl; rw [hfree] at h; cases h), h]

-- The names stay a tree: a new file is in a directory, and no other name stands for it.
theorem WellFormed.addFile (wf : disk.WellFormed) (hfree : disk.entryAt? new = none)
    (hdirectory : disk.entryAt? new.dropLast = some .directory) (mode : Nat) (data : Bytes) :
    (disk.addFile new mode data).WellFormed := by
  have hentry := entryAt?_addFile hfree mode data
  have hunused : ∀ place, disk.entryAt? place ≠ some (.file disk.files.length) :=
    fun place h => Nat.lt_irrefl _ (wf.stored _ _ h)
  refine ⟨?_, ?_, ?_, ?_⟩
  · exact directory_addFile hfree mode data _ wf.working
  · intro place entry h
    rw [hentry] at h
    split at h
    · rename_i hplace
      rw [hplace]
      exact directory_addFile hfree mode data _ hdirectory
    · exact directory_addFile hfree mode data _ (wf.parent _ _ h)
  · intro place number h
    rw [hentry] at h
    simp only [Disk.addFile, List.length_append, List.length_singleton]
    split at h
    · cases h; omega
    · have := wf.stored _ _ h
      omega
  · intro place other number h h'
    rw [hentry] at h h'
    split at h
    · rename_i hplace
      cases h
      split at h'
      · rename_i hother
        rw [hplace, hother]
      · exact absurd h' (hunused other)
    · split at h'
      · cases h'
        exact absurd h (hunused place)
      · exact wf.unlinked _ _ _ h h'

theorem sameNames_addDescriptor (disk : Disk) (number : Nat) :
    disk.SameNames (disk.addDescriptor number).2 := ⟨rfl, rfl, rfl⟩

-- A descriptor that was just given out is at the start of its file.
theorem writesAt_addDescriptor {stored : StoredFile}
    (hentry : disk.entryAt? place = some (.file number)) (hstored : disk.files[number]? = some stored) :
    (disk.addDescriptor number).2.WritesAt (disk.addDescriptor number).1 place stored.content 0 :=
  ⟨number, stored, hentry, hstored, rfl, by simp [addDescriptor]⟩

-- The names are as before, but for the one at the place, which is no directory.
structure SameBut (disk disk' : Disk) (place : Place) : Prop where
  wellFormed : disk'.WellFormed
  working : disk'.workingDirectory = disk.workingDirectory
  directory : ∀ other, disk.entryAt? other = some .directory → disk'.entryAt? other = some .directory
  free : disk'.entryAt? place ≠ some .directory
  entry : ∀ other, other ≠ place → disk'.entryAt? other = disk.entryAt? other
  content : ∀ other, other ≠ place → disk'.contentAt? other = disk.contentAt? other

-- Opening a file never fails, and makes it if it is missing. What it holds is written over
-- from its start.
theorem LeadsTo.openFile (h : disk.LeadsTo path place) (wf : disk.WellFormed)
    (hfree : disk.entryAt? place ≠ some .directory) (mode : Nat) :
    ∃ handle disk', disk.openFile path mode = .ok (handle, disk') ∧ disk.SameBut disk' place ∧
      disk'.WritesAt handle place ((disk.contentAt? place).getD []) 0 := by
  obtain ⟨target, htarget, -, hslash, hplace, hlookUp⟩ := h.exists_target
  unfold Disk.openFile
  rw [htarget]
  simp only [bind, Except.bind, pure, Except.pure, hslash, Bool.false_eq_true, if_false, hlookUp,
    hplace]
  cases hentry : disk.entryAt? place with
  | none =>
    have hnew := entryAt?_addFile hentry mode []
    have hnames := sameNames_addDescriptor (disk.addFile place mode []) disk.files.length
    have hentries := fun other => (hnames.entryAt? other).trans (hnew other)
    refine ⟨_, _, rfl, ⟨hnames.wellFormed (wf.addFile hentry (h.dropLast wf) mode []), rfl,
      directory_addFile hentry mode [], ?_, fun other hother => (hentries other).trans (if_neg hother),
      ?_⟩, ?_⟩
    · intro hdirectory
      have hfile := (hentries place).symm.trans hdirectory
      rw [if_pos rfl] at hfile
      cases hfile
    · intro other hother
      refine contentAt?_congr ((hentries other).trans (if_neg hother)) fun number hfile => ?_
      have hlt := wf.stored _ _ hfile
      simp [Disk.addFile, List.getElem?_append_left hlt]
    · have hstored : (disk.addFile place mode []).files[disk.files.length]? =
          some { mode, bytes := [].toByteArray } := by simp [Disk.addFile]
      have hwrites := writesAt_addDescriptor ((hnew place).trans (if_pos rfl)) hstored
      rw [StoredFile.content_toByteArray] at hwrites
      rw [contentAt?_of_free hentry]
      exact hwrites
  | some entry =>
    cases entry with
    | directory => exact absurd hentry hfree
    | file number =>
      have hstored := List.getElem?_eq_getElem (wf.stored _ _ hentry)
      have hnames := sameNames_addDescriptor disk number
      refine ⟨_, _, rfl, ⟨hnames.wellFormed wf, rfl, fun _ => id, ?_, fun _ _ => rfl, fun _ _ => rfl⟩, ?_⟩
      · exact fun hdirectory => hfree ((hnames.entryAt? place).symm.trans hdirectory)
      · rw [contentAt?_of_file hentry, hstored]
        exact writesAt_addDescriptor hentry hstored

-- If the active file holds nothing, or is missing, the log starts at its end.
theorem LogSite.openFile (site : disk.LogSite active rotated activeAt rotatedAt)
    (hempty : ∀ content, disk.contentAt? activeAt = some content → content = []) (mode : Nat) :
    ∃ handle disk', disk.openFile active mode = .ok (handle, disk') ∧
      disk'.LogSite active rotated activeAt rotatedAt ∧
      disk'.WritesAtEnd handle activeAt [] ∧
      disk'.contentAt? rotatedAt = disk.contentAt? rotatedAt := by
  obtain ⟨handle, disk', hopen, hsame, hwrites⟩ := site.active.openFile site.wellFormed site.activeFree mode
  have hnothing : (disk.contentAt? activeAt).getD [] = [] := by
    cases hcontent : disk.contentAt? activeAt with
    | none => rfl
    | some content => exact hempty content hcontent
  rw [hnothing] at hwrites
  refine ⟨handle, disk', hopen, site.mono hsame.wellFormed hsame.working hsame.directory hsame.free ?_,
    writesAtEnd_iff.mpr hwrites, hsame.content rotatedAt site.ne.symm⟩
  rw [hsame.entry rotatedAt site.ne.symm]
  exact site.rotatedFree

end AuditCollector.Disk
