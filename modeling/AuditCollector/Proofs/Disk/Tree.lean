import AuditCollector.Disk.Basic
import Mathlib.Data.List.Induction

namespace AuditCollector.Disk

variable {disk disk' : Disk} {place outer : Place} {path : String}

-- A disk as it should be: what has a name is in a directory, every file is stored, and
-- without links no two names stand for one file.
structure WellFormed (disk : Disk) : Prop where
  working : disk.entryAt? disk.workingDirectory = some .directory
  parent : ∀ place entry, disk.entryAt? place = some entry →
    disk.entryAt? place.dropLast = some .directory
  stored : ∀ place number, disk.entryAt? place = some (.file number) → number < disk.files.length
  unlinked : ∀ place other number, disk.entryAt? place = some (.file number) →
    disk.entryAt? other = some (.file number) → place = other

@[simp] theorem entryAt?_nil (disk : Disk) : disk.entryAt? [] = some .directory := rfl

theorem entryAt?_of_ne_nil (hplace : place ≠ []) :
    disk.entryAt? place = disk.entries.lookup place := by
  simp [entryAt?, hplace]

theorem wellFormed_empty : empty.WellFormed := by
  have hentry : ∀ place entry, empty.entryAt? place = some entry →
      entry = .directory ∧ (place = [] ∨ place = [['w', 'o', 'r', 'k']]) := by
    intro place entry h
    by_cases hnil : place = []
    · subst hnil
      cases h
      exact ⟨rfl, .inl rfl⟩
    · rw [entryAt?_of_ne_nil hnil, empty, List.lookup_cons] at h
      split at h
      · rename_i hplace
        cases h
        exact ⟨rfl, .inr (by simpa using hplace)⟩
      · cases h
  refine ⟨rfl, ?_, ?_, ?_⟩
  · intro place entry h
    obtain ⟨-, rfl | rfl⟩ := hentry place entry h
    · rfl
    · rfl
  · intro place number h
    cases (hentry place _ h).1
  · intro place other number h
    cases (hentry place _ h).1

-- All that a name is inside of are directories.
theorem WellFormed.above (wf : disk.WellFormed) {rest : Place} {entry : Entry}
    (hrest : rest ≠ []) (h : disk.entryAt? (outer ++ rest) = some entry) :
    disk.entryAt? outer = some .directory := by
  induction rest using List.reverseRecOn generalizing entry with
  | nil => exact absurd rfl hrest
  | append_singleton rest name ih =>
    have hparent := wf.parent _ _ h
    rw [← List.append_assoc, List.dropLast_concat] at hparent
    by_cases hnil : rest = []
    · simpa [hnil] using hparent
    · exact ih hnil hparent

theorem isInside_iff : isInside place outer = true ↔ ∃ rest, rest ≠ [] ∧ place = outer ++ rest := by
  simp only [isInside, Bool.and_eq_true, decide_eq_true_eq, List.isPrefixOf_iff_prefix]
  constructor
  · rintro ⟨hlength, rest, rfl⟩
    refine ⟨rest, ?_, rfl⟩
    rintro rfl
    simp at hlength
  · rintro ⟨rest, hrest, rfl⟩
    have := List.length_pos_iff.mpr hrest
    exact ⟨by rw [List.length_append]; omega, List.prefix_append _ _⟩

-- Nothing is inside a file, or inside a name that is free.
theorem WellFormed.nothing_inside (wf : disk.WellFormed)
    (houter : disk.entryAt? outer ≠ some .directory) (h : isInside place outer = true) :
    disk.entryAt? place = none := by
  obtain ⟨rest, hrest, rfl⟩ := isInside_iff.mp h
  by_contra hsome
  obtain ⟨entry, hentry⟩ := Option.ne_none_iff_exists'.mp hsome
  exact houter (wf.above hrest hentry)

-- No entry at all is kept inside a file or a free name.
theorem WellFormed.not_inside_of_mem (wf : disk.WellFormed)
    (houter : disk.entryAt? outer ≠ some .directory) {entry : Place × Entry}
    (hentry : entry ∈ disk.entries) : isInside entry.1 outer = false := by
  by_contra hinside
  rw [Bool.not_eq_false] at hinside
  have hnone := wf.nothing_inside houter hinside
  have hne : entry.1 ≠ [] := by
    obtain ⟨rest, hrest, h⟩ := isInside_iff.mp hinside
    simp [h, hrest]
  rw [entryAt?_of_ne_nil hne] at hnone
  simpa using List.lookup_eq_none_iff.mp hnone entry hentry

theorem WellFormed.enter (wf : disk.WellFormed) {name : Name} {next : Place}
    (hplace : disk.entryAt? place = some .directory) (h : disk.enter place name = .ok next) :
    disk.entryAt? next = some .directory := by
  unfold Disk.enter at h
  split at h
  · cases h; exact hplace
  split at h
  · cases h; exact wf.parent _ _ hplace
  split at h
  · cases h
  split at h
  · cases h
  · cases h
  · cases h; assumption

theorem WellFormed.foldlM_enter (wf : disk.WellFormed) {names : List Name} {last : Place}
    (hplace : disk.entryAt? place = some .directory)
    (h : names.foldlM disk.enter place = .ok last) : disk.entryAt? last = some .directory := by
  induction names generalizing place with
  | nil => cases h; exact hplace
  | cons name names ih =>
    rw [List.foldlM_cons] at h
    cases hnext : disk.enter place name with
    | error error => rw [hnext] at h; cases h
    | ok next =>
      rw [hnext] at h
      exact ih (wf.enter hplace hnext) h

-- Directories that stay let every walk through them end where it did.
theorem enter_mono {name : Name} {next : Place}
    (hkeep : ∀ place, disk.entryAt? place = some .directory →
      disk'.entryAt? place = some .directory)
    (h : disk.enter place name = .ok next) : disk'.enter place name = .ok next := by
  unfold Disk.enter at h ⊢
  split at h
  · simp_all
  split at h
  · simp_all
  split at h
  · cases h
  split at h
  · cases h
  · cases h
  · rename_i hhere habove hlong _ hentry
    simp only [hhere, habove, hlong, if_false, hkeep _ hentry]
    exact h

theorem foldlM_enter_mono {names : List Name} {last : Place}
    (hkeep : ∀ place, disk.entryAt? place = some .directory →
      disk'.entryAt? place = some .directory)
    (h : names.foldlM disk.enter place = .ok last) :
    names.foldlM disk'.enter place = .ok last := by
  induction names generalizing place with
  | nil => exact h
  | cons name names ih =>
    rw [List.foldlM_cons] at h ⊢
    cases hnext : disk.enter place name with
    | error error => rw [hnext] at h; cases h
    | ok next =>
      rw [hnext] at h
      rw [enter_mono hkeep hnext]
      exact ih h

theorem target_eq_ok {target : Target} (h : disk.target path = .ok target) :
    ∃ parent, (Path.names path).dropLast.foldlM disk.enter (disk.startOf path) = .ok parent ∧
      target = Target.ofParent path parent := by
  unfold Disk.target at h
  split at h
  · cases h
  split at h
  · cases h
  split at h
  · cases h
  cases hwalk : (Path.names path).dropLast.foldlM disk.enter (disk.startOf path) with
  | error error => rw [hwalk] at h; cases h
  | ok parent => rw [hwalk] at h; cases h; exact ⟨parent, rfl, rfl⟩

theorem target_mono {target : Target} (hworking : disk'.workingDirectory = disk.workingDirectory)
    (hkeep : ∀ place, disk.entryAt? place = some .directory →
      disk'.entryAt? place = some .directory)
    (h : disk.target path = .ok target) : disk'.target path = .ok target := by
  obtain ⟨parent, hwalk, rfl⟩ := target_eq_ok h
  have hstart : disk'.startOf path = disk.startOf path := by rw [startOf, hworking, startOf]
  unfold Disk.target at h ⊢
  rw [hstart, foldlM_enter_mono hkeep hwalk]
  rw [hwalk] at h
  exact h

theorem WellFormed.startOf (wf : disk.WellFormed) (path : String) :
    disk.entryAt? (disk.startOf path) = some .directory := by
  unfold Disk.startOf
  split
  · rfl
  · exact wf.working

-- The last name of a path is looked up in a directory.
theorem WellFormed.target_parent (wf : disk.WellFormed) {target : Target}
    (h : disk.target path = .ok target) : disk.entryAt? target.parent = some .directory := by
  obtain ⟨parent, hwalk, rfl⟩ := target_eq_ok h
  have hparent := wf.foldlM_enter (wf.startOf path) hwalk
  unfold Target.ofParent
  split
  · exact hparent
  split
  · exact hparent
  split
  · exact wf.parent _ _ hparent
  · exact hparent

-- The path ends in a name, not too long, and the name is at `place`. It does not ask for
-- a directory there.
def LeadsTo (disk : Disk) (path : String) (place : Place) : Prop :=
  ∃ parent name, disk.target path = .ok { parent, name? := some name, asksForDirectory := false } ∧
    byteLength name ≤ maxNameLength ∧ place = parent ++ [name]

private theorem splitAtSlashes_of_not_mem {name : List Char} (hslash : '/' ∉ name) :
    Path.splitAtSlashes name = [name] := by
  induction name with
  | nil => rfl
  | cons c rest ih =>
    rw [List.mem_cons, not_or] at hslash
    rw [Path.splitAtSlashes, if_neg (Ne.symm hslash.1), ih hslash.2]

-- A single name leads to itself where one works.
theorem leadsTo_name {name : Name} (hname : name ≠ []) (hslash : '/' ∉ name)
    (hnul : '\x00' ∉ name) (hhere : name ≠ Path.here) (habove : name ≠ Path.above)
    (hlength : byteLength name ≤ maxNameLength) :
    disk.LeadsTo (String.ofList name) (disk.workingDirectory ++ [name]) := by
  have hnames : Path.names (String.ofList name) = [name] := by
    rw [Path.names, String.toList_ofList, splitAtSlashes_of_not_mem hslash]
    simp [hname]
  have hrelative : Path.isAbsolute (String.ofList name) = false := by
    rw [Path.isAbsolute, String.toList_ofList, beq_eq_false_iff_ne]
    exact fun h => hslash (List.mem_of_head? h)
  have hfile : Path.asksForDirectory (String.ofList name) = false := by
    rw [Path.asksForDirectory, String.toList_ofList, beq_eq_false_iff_ne]
    exact fun h => hslash (List.mem_of_getLast? h)
  refine ⟨disk.workingDirectory, name, ?_, hlength, rfl⟩
  rw [target, String.toList_ofList, if_neg (by simpa using hnul), if_neg (by simpa using hname),
    if_neg (by unfold maxPathLength; unfold maxNameLength at hlength; omega), hnames, startOf,
    hrelative]
  simp [Target.ofParent, hnames, hfile, hhere, habove, pure, Except.pure, Except.map]

theorem LeadsTo.mono (h : disk.LeadsTo path place)
    (hworking : disk'.workingDirectory = disk.workingDirectory)
    (hkeep : ∀ place, disk.entryAt? place = some .directory →
      disk'.entryAt? place = some .directory) : disk'.LeadsTo path place := by
  obtain ⟨parent, name, htarget, hlength, rfl⟩ := h
  exact ⟨parent, name, target_mono hworking hkeep htarget, hlength, rfl⟩

theorem LeadsTo.no_nul (h : disk.LeadsTo path place) : path.toList.contains '\x00' = false := by
  obtain ⟨parent, name, htarget, -, -⟩ := h
  by_contra hnul
  rw [Bool.not_eq_false] at hnul
  rw [Disk.target, if_pos hnul] at htarget
  cases htarget

theorem LeadsTo.dropLast (h : disk.LeadsTo path place) (wf : disk.WellFormed) :
    disk.entryAt? place.dropLast = some .directory := by
  obtain ⟨parent, name, htarget, -, rfl⟩ := h
  rw [List.dropLast_concat]
  exact wf.target_parent htarget

-- A path never leads into a file or below a free name.
theorem LeadsTo.not_isInside (h : disk.LeadsTo path place) (wf : disk.WellFormed) {outer : Place}
    (houter : disk.entryAt? outer ≠ some .directory) : isInside place outer = false := by
  by_contra hinside
  rw [Bool.not_eq_false] at hinside
  obtain ⟨rest, hrest, rfl⟩ := isInside_iff.mp hinside
  have hparent := h.dropLast wf
  rw [List.dropLast_append_of_ne_nil hrest] at hparent
  by_cases hnil : rest.dropLast = []
  · rw [hnil, List.append_nil] at hparent
    exact houter hparent
  · exact houter (wf.above hnil hparent)

-- Taken apart, the path has a name, no slash at the end, and the name can be looked up.
theorem LeadsTo.exists_target (h : disk.LeadsTo path place) :
    ∃ target, disk.target path = .ok target ∧ target.name?.isNone = false ∧
      target.asksForDirectory = false ∧ target.place = place ∧
      disk.lookUp target = .ok (disk.entryAt? place) := by
  obtain ⟨parent, name, htarget, hlength, rfl⟩ := h
  refine ⟨_, htarget, rfl, rfl, rfl, ?_⟩
  simp [lookUp, Target.place, Nat.not_lt.mpr hlength]

end AuditCollector.Disk
