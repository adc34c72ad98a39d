import AuditCollector.Config.Basic

namespace AuditCollector.Config

-- What is asked of a configuration. Paths that are written in two ways do not differ.
structure Sensible (config : Config) : Prop where
  enabled : ∀ value ∈ config.enabled, value ≤ 2
  maxBytes : config.log.maxBytes ≠ 0
  path : config.log.path ≠ ""
  rotatedPath : config.log.rotatedPath ≠ ""
  differ : Path.components config.log.path ≠ Path.components config.log.rotatedPath
  watches : ∀ watch ∈ config.watches, watch.path ≠ ""

-- The first thing that a configuration gets wrong, with all before it in order.
inductive Fault (config : Config) : ConfigError → Prop where
  | enabled {value : UInt32} (hvalue : config.enabled = some value) (hover : 2 < value) :
    Fault config (.invalidEnabled value)
  | maxBytes (henabled : ∀ value ∈ config.enabled, value ≤ 2) (hzero : config.log.maxBytes = 0) :
    Fault config .zeroMaxBytes
  | path (henabled : ∀ value ∈ config.enabled, value ≤ 2) (hbytes : config.log.maxBytes ≠ 0)
      (hempty : config.log.path = "") :
    Fault config (.emptyPath "log.path")
  | rotatedPath (henabled : ∀ value ∈ config.enabled, value ≤ 2) (hbytes : config.log.maxBytes ≠ 0)
      (hpath : config.log.path ≠ "") (hempty : config.log.rotatedPath = "") :
    Fault config (.emptyPath "log.rotated_path")
  | same (henabled : ∀ value ∈ config.enabled, value ≤ 2) (hbytes : config.log.maxBytes ≠ 0)
      (hpath : config.log.path ≠ "") (hrotated : config.log.rotatedPath ≠ "")
      (hsame : Path.components config.log.path = Path.components config.log.rotatedPath) :
    Fault config .sameLogPaths
  | watch (henabled : ∀ value ∈ config.enabled, value ≤ 2) (hbytes : config.log.maxBytes ≠ 0)
      (hpath : config.log.path ≠ "") (hrotated : config.log.rotatedPath ≠ "")
      (hdiffer : Path.components config.log.path ≠ Path.components config.log.rotatedPath)
      {watch : WatchConfig} (hwatch : watch ∈ config.watches) (hempty : watch.path = "") :
    Fault config (.emptyPath "watch.path")

variable {config : Config} {error : ConfigError}

theorem sensible_or_fault (config : Config) : config.Sensible ∨ ∃ error, config.Fault error := by
  by_cases hstate : ∃ value ∈ config.enabled, 2 < value
  · obtain ⟨value, hvalue, hover⟩ := hstate
    exact .inr ⟨_, .enabled hvalue hover⟩
  have henabled : ∀ value ∈ config.enabled, value ≤ 2 := fun value hvalue =>
    UInt32.not_lt.mp fun hover => hstate ⟨value, hvalue, hover⟩
  by_cases hbytes : config.log.maxBytes = 0
  · exact .inr ⟨_, .maxBytes henabled hbytes⟩
  by_cases hpath : config.log.path = ""
  · exact .inr ⟨_, .path henabled hbytes hpath⟩
  by_cases hrotated : config.log.rotatedPath = ""
  · exact .inr ⟨_, .rotatedPath henabled hbytes hpath hrotated⟩
  by_cases hsame : Path.components config.log.path = Path.components config.log.rotatedPath
  · exact .inr ⟨_, .same henabled hbytes hpath hrotated hsame⟩
  by_cases hwatch : ∃ watch ∈ config.watches, watch.path = ""
  · obtain ⟨watch, hwatch, hempty⟩ := hwatch
    exact .inr ⟨_, .watch henabled hbytes hpath hrotated hsame hwatch hempty⟩
  · exact .inl ⟨henabled, hbytes, hpath, hrotated, hsame, fun watch hmem hempty =>
      hwatch ⟨watch, hmem, hempty⟩⟩

theorem validate_of_enabled (h : ∀ value ∈ config.enabled, value ≤ 2) :
    config.validate =
      if config.log.maxBytes = 0 then .error .zeroMaxBytes
      else if config.log.path = "" then .error (.emptyPath "log.path")
      else if config.log.rotatedPath = "" then .error (.emptyPath "log.rotated_path")
      else if Path.components config.log.path = Path.components config.log.rotatedPath then
        .error .sameLogPaths
      else if ∃ watch ∈ config.watches, watch.path = "" then .error (.emptyPath "watch.path")
      else .ok () := by
  have hwatches : config.watches.any (·.path.isEmpty) = true ↔
      ∃ watch ∈ config.watches, watch.path = "" := by
    simp only [List.any_eq_true, String.isEmpty_iff]
  unfold validate
  cases henabled : config.enabled with
  | none =>
    simp only [hwatches, String.isEmpty_iff]
    rfl
  | some value =>
    have hle : ¬EnabledState.locked.toUInt32 < value := UInt32.not_lt.mpr (h value henabled)
    simp only [if_neg hle, hwatches, String.isEmpty_iff]
    rfl

theorem validate_of_sensible (h : config.Sensible) : config.validate = .ok () := by
  have hwatches : ¬∃ watch ∈ config.watches, watch.path = "" := fun ⟨watch, hmem, hempty⟩ =>
    h.watches watch hmem hempty
  rw [validate_of_enabled h.enabled, if_neg h.maxBytes, if_neg h.path, if_neg h.rotatedPath,
    if_neg h.differ, if_neg hwatches]

theorem validate_of_fault (h : config.Fault error) : config.validate = .error error := by
  cases h with
  | enabled hvalue hover =>
    have htold : EnabledState.locked.toUInt32 < _ := hover
    simp only [validate, hvalue, if_pos htold]
    rfl
  | maxBytes henabled hzero => rw [validate_of_enabled henabled, if_pos hzero]
  | path henabled hbytes hempty =>
    rw [validate_of_enabled henabled, if_neg hbytes, if_pos hempty]
  | rotatedPath henabled hbytes hpath hempty =>
    rw [validate_of_enabled henabled, if_neg hbytes, if_neg hpath, if_pos hempty]
  | same henabled hbytes hpath hrotated hsame =>
    rw [validate_of_enabled henabled, if_neg hbytes, if_neg hpath, if_neg hrotated, if_pos hsame]
  | @watch henabled hbytes hpath hrotated hdiffer watch hwatch hempty =>
    rw [validate_of_enabled henabled, if_neg hbytes, if_neg hpath, if_neg hrotated, if_neg hdiffer,
      if_pos ⟨watch, hwatch, hempty⟩]

-- What is told is the first fault, and nothing is told just if there is none.
theorem validate_eq_ok_iff : config.validate = .ok () ↔ config.Sensible := by
  refine ⟨fun hvalid => ?_, validate_of_sensible⟩
  rcases sensible_or_fault config with hsensible | ⟨error, hfault⟩
  · exact hsensible
  · rw [validate_of_fault hfault] at hvalid
    cases hvalid

theorem validate_eq_error_iff : config.validate = .error error ↔ config.Fault error := by
  refine ⟨fun hfailed => ?_, validate_of_fault⟩
  rcases sensible_or_fault config with hsensible | ⟨found, hfault⟩
  · rw [validate_of_sensible hsensible] at hfailed
    cases hfailed
  · rw [validate_of_fault hfault] at hfailed
    cases hfailed
    exact hfault

theorem components_ne_of_validate (hvalid : config.validate = .ok ()) :
    Path.components config.log.path ≠ Path.components config.log.rotatedPath :=
  (validate_eq_ok_iff.mp hvalid).differ

end AuditCollector.Config
