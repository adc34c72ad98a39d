import AuditCollector.CommandLine
import AuditCollector.Proofs.Config.Validation

namespace AuditCollector

namespace Config

-- A configuration that is checked comes through as it is, or its first fault is told.
def Checked (config : Config) : Except ConfigError Config → Prop
  | .ok checked => config.Sensible ∧ checked = config
  | .error error => config.Fault error

theorem checked_validate (config : Config) :
    config.Checked (config.validate.map fun _ => config) := by
  cases hvalid : config.validate with
  | error error => exact validate_eq_error_iff.mp hvalid
  | ok _ => exact ⟨validate_eq_ok_iff.mp hvalid, rfl⟩

theorem load_of_parse {parser : Toml.Parser} {text : String} {config : Config}
    (h : parse parser text = .ok config) :
    load parser text = config.validate.map fun _ => config := by
  simp only [load, h]
  rfl

end Config

namespace CommandLine

open Config

-- What is loaded, by what was read of the file. Without a file there is nothing to replace but
-- what holds anyway.
inductive Loads (parser : Toml.Parser) (line : CommandLine) :
    Except IoError Bytes → Except ConfigError Config → Prop where
  | missing {loaded : Except ConfigError Config} (hchecked : (line.override {}).Checked loaded) :
    Loads parser line (.error .notFound) loaded
  | unread {error : IoError} (hfound : error ≠ .notFound) :
    Loads parser line (.error error) (.error (.read line.config error))
  | garbled {bytes : Bytes} (htext : Text.decode? bytes = none) :
    Loads parser line (.ok bytes) (.error (.read line.config .notUtf8))
  | unparsed {bytes : Bytes} {text : String} {error : ConfigError}
    (htext : Text.decode? bytes = some text) (hparse : Config.parse parser text = .error error) :
    Loads parser line (.ok bytes) (.error error)
  | faulty {bytes : Bytes} {text : String} {config : Config} {error : ConfigError}
    (htext : Text.decode? bytes = some text) (hparse : Config.parse parser text = .ok config)
    (hfault : config.Fault error) :
    Loads parser line (.ok bytes) (.error error)
  | replaced {bytes : Bytes} {text : String} {config : Config} {loaded : Except ConfigError Config}
    (htext : Text.decode? bytes = some text) (hparse : Config.parse parser text = .ok config)
    (hsensible : config.Sensible) (hchecked : (line.override config).Checked loaded) :
    Loads parser line (.ok bytes) loaded

variable {φ : Type} [FileSystem φ] {parser : Toml.Parser} {line : CommandLine} {files files' : φ}

theorem value_loadConfig_of_error {error : ConfigError}
    (h : (loadFile parser files line.config).value = (.error error, files')) :
    (line.loadConfig parser files).value = (.error error, files') := by
  simp only [loadConfig, Traced.value_bind, h, Traced.value_pure]

theorem value_loadConfig_of_ok {config : Config}
    (h : (loadFile parser files line.config).value = (.ok config, files')) :
    (line.loadConfig parser files).value =
      ((line.override config).validate.map fun _ => line.override config, files') := by
  simp only [loadConfig, Traced.value_bind, h, Traced.value_pure]

theorem loads_of_text {bytes : Bytes} {text : String} (htext : Text.decode? bytes = some text)
    (hload : (loadFile parser files line.config).value = (load parser text, files')) :
    Loads parser line (.ok bytes) (line.loadConfig parser files).value.1 := by
  cases hparse : Config.parse parser text with
  | error error =>
    have hfailed : load parser text = .error error := by
      simp only [load, hparse]
      rfl
    rw [hfailed] at hload
    rw [value_loadConfig_of_error hload]
    exact .unparsed htext hparse
  | ok config =>
    rw [load_of_parse hparse] at hload
    rcases sensible_or_fault config with hsensible | ⟨error, hfault⟩
    · rw [validate_of_sensible hsensible] at hload
      rw [value_loadConfig_of_ok hload]
      exact .replaced htext hparse hsensible (checked_validate _)
    · rw [validate_of_fault hfault] at hload
      rw [value_loadConfig_of_error hload]
      exact .faulty htext hparse hfault

-- All that is done with files is to read one, and that decides.
theorem loadConfig_loads (parser : Toml.Parser) (line : CommandLine) (files : φ) :
    Loads parser line (FileSystem.readFile files line.config).1
        (line.loadConfig parser files).value.1 ∧
      (line.loadConfig parser files).value.2 = (FileSystem.readFile files line.config).2 := by
  rcases hread : FileSystem.readFile files line.config with ⟨error | bytes, files'⟩
  · have hfailed : readText files line.config = (.error error, files') := by rw [readText, hread]
    by_cases hmissing : error = .notFound
    · have hload : (loadFile parser files line.config).value = (.ok {}, files') := by
        simp only [loadFile, hfailed, if_pos hmissing]
        rfl
      rw [value_loadConfig_of_ok hload, hmissing]
      exact ⟨.missing (checked_validate _), rfl⟩
    · have hload : (loadFile parser files line.config).value =
          (.error (.read line.config error), files') := by
        simp only [loadFile, hfailed, if_neg hmissing]
        rfl
      rw [value_loadConfig_of_error hload]
      exact ⟨.unread hmissing, rfl⟩
  · cases htext : Text.decode? bytes with
    | none =>
      have hload : (loadFile parser files line.config).value =
          (.error (.read line.config .notUtf8), files') := by
        simp only [loadFile, readText, hread, htext]
        rfl
      rw [value_loadConfig_of_error hload]
      exact ⟨.garbled htext, rfl⟩
    | some text =>
      have hload : (loadFile parser files line.config).value = (load parser text, files') := by
        simp only [loadFile, readText, hread, htext]
        rfl
      refine ⟨loads_of_text htext hload, ?_⟩
      cases hloaded : load parser text with
      | error error =>
        rw [hloaded] at hload
        rw [value_loadConfig_of_error hload]
      | ok config =>
        rw [hloaded] at hload
        rw [value_loadConfig_of_ok hload]

theorem Loads.sensible {read : Except IoError Bytes} {config : Config}
    (h : Loads parser line read (.ok config)) : config.Sensible := by
  cases h with
  | missing hchecked =>
    obtain ⟨hsensible, rfl⟩ := hchecked
    exact hsensible
  | replaced _ _ _ hchecked =>
    obtain ⟨hsensible, rfl⟩ := hchecked
    exact hsensible

end CommandLine

end AuditCollector
