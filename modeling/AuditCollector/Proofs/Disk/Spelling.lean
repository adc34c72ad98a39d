import AuditCollector.Proofs.Disk.Tree
import Mathlib.Data.List.Basic

namespace AuditCollector

namespace Disk

variable {disk : Disk} {place last activeAt rotatedAt : Place} {path active rotated : String}
  {name : Name} {names : List Name}

theorem enter_of_plain (habove : name ≠ Path.above) (h : disk.enter place name = .ok last) :
    last = place ++ [name].filter (· ≠ Path.here) := by
  unfold enter at h
  by_cases hhere : name = Path.here
  · rw [if_pos hhere] at h
    cases h
    simp [hhere]
  · rw [if_neg hhere, if_neg habove] at h
    split at h
    · cases h
    split at h
    · cases h
    · cases h
    · cases h
      simp [hhere]

-- A walk that never goes up ends below its start, and dots do not count.
theorem foldlM_enter_of_plain (habove : Path.above ∉ names)
    (h : names.foldlM disk.enter place = .ok last) :
    last = place ++ names.filter (· ≠ Path.here) := by
  induction names generalizing place with
  | nil =>
    cases h
    simp
  | cons name names ih =>
    rw [List.mem_cons, not_or] at habove
    rw [List.foldlM_cons] at h
    cases hnext : disk.enter place name with
    | error error =>
      rw [hnext] at h
      cases h
    | ok next =>
      rw [hnext] at h
      rw [ih habove.2 h, enter_of_plain (Ne.symm habove.1) hnext, List.append_assoc,
        ← List.filter_append, List.singleton_append]

-- Without going up, a path says itself where it leads.
theorem LeadsTo.eq_names (h : disk.LeadsTo path place) (habove : Path.above ∉ Path.names path) :
    place = disk.startOf path ++ (Path.names path).filter (· ≠ Path.here) := by
  obtain ⟨parent, name, htarget, -, rfl⟩ := h
  obtain ⟨walked, hwalk, hparent⟩ := target_eq_ok htarget
  unfold Target.ofParent at hparent
  cases hlast : (Path.names path).getLast? with
  | none => simp [hlast] at hparent
  | some lastName =>
    have hnames := List.dropLast_append_getLast? lastName hlast
    have hmem : lastName ∈ Path.names path := List.mem_of_getLast? hlast
    have hup : lastName ≠ Path.above := fun hup => habove (hup ▸ hmem)
    by_cases hhere : lastName = Path.here
    · simp [hlast, hhere] at hparent
    · simp only [hlast, hhere, hup, if_false, Target.mk.injEq, Option.some.injEq] at hparent
      obtain ⟨rfl, rfl, -⟩ := hparent
      have hplain : Path.above ∉ (Path.names path).dropLast :=
        fun hmem => habove (List.dropLast_subset _ hmem)
      rw [foldlM_enter_of_plain hplain hwalk]
      conv_rhs => rw [← hnames, List.filter_append]
      simp [hhere]

-- Two paths that start in the same way, never go up and lead to one place are the same, name
-- by name.
theorem LeadsTo.components_eq (hactive : disk.LeadsTo active place) (hrotated : disk.LeadsTo rotated place)
    (hplain : Path.above ∉ Path.names active) (hplain' : Path.above ∉ Path.names rotated)
    (habsolute : (Path.components active).absolute = (Path.components rotated).absolute)
    (hhere : (Path.components active).startsHere = (Path.components rotated).startsHere) :
    Path.components active = Path.components rotated := by
  have hstart : disk.startOf active = disk.startOf rotated := by
    simp only [Path.components] at habsolute
    rw [startOf, habsolute, startOf]
  have hsame := (hactive.eq_names hplain).symm.trans (hrotated.eq_names hplain')
  rw [hstart] at hsame
  have hnames := List.append_cancel_left hsame
  simp only [Path.components, Path.Components.mk.injEq] at hhere ⊢
  exact ⟨habsolute, hhere, hnames⟩

end Disk

end AuditCollector
