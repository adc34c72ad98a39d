import AuditCollector.Disk.Faults
import AuditCollector.Proofs.Config.Loading
import AuditCollector.Toml.Document
import Mathlib.Data.List.Basic

namespace AuditCollector

open Toml

namespace Config

variable {document : Entries} {config : Config} {log : LogConfig}

-- What a document says of one of the parts of the log.
def logEntry (document : Entries) (place : Nat) : Option Value := do
  let value ← document.lookup "log"
  let parts ← value.parts? ["path", "rotated_path", "max_bytes"]
  (← parts[place]?)

theorem decodeLog_eq_some {value : Value} (h : decodeLog value = some log) :
    ∃ path rotatedPath maxBytes,
      value.parts? ["path", "rotated_path", "max_bytes"] = some [path, rotatedPath, maxBytes] ∧
        orElse ({} : LogConfig).path Value.text? path = some log.path ∧
        orElse ({} : LogConfig).rotatedPath Value.text? rotatedPath = some log.rotatedPath ∧
        orElse ({} : LogConfig).maxBytes (Value.natural? UInt64.size) maxBytes =
          some log.maxBytes := by
  obtain ⟨parts, hparts, h⟩ := Option.bind_eq_some_iff.mp h
  split at h
  · rename_i path rotatedPath maxBytes
    obtain ⟨_, hpath, h⟩ := Option.bind_eq_some_iff.mp h
    obtain ⟨_, hrotated, h⟩ := Option.bind_eq_some_iff.mp h
    obtain ⟨_, hbytes, h⟩ := Option.bind_eq_some_iff.mp h
    cases h
    exact ⟨path, rotatedPath, maxBytes, hparts, hpath, hrotated, hbytes⟩
  · cases h

theorem logEntry_of_decode (h : orElse {} decodeLog (document.lookup "log") = some log) :
    orElse ({} : LogConfig).path Value.text? (logEntry document 0) = some log.path ∧
      orElse ({} : LogConfig).rotatedPath Value.text? (logEntry document 1) = some log.rotatedPath ∧
      orElse ({} : LogConfig).maxBytes (Value.natural? UInt64.size) (logEntry document 2) =
        some log.maxBytes := by
  cases hlog : document.lookup "log" with
  | none =>
    rw [hlog] at h
    cases h
    simp only [logEntry, hlog]
    exact ⟨rfl, rfl, rfl⟩
  | some value =>
    rw [hlog] at h
    obtain ⟨path, rotatedPath, maxBytes, hparts, hread⟩ := decodeLog_eq_some h
    have hentry : ∀ place, logEntry document place =
        [path, rotatedPath, maxBytes][place]?.bind id := by
      intro place
      simp only [logEntry, hlog, hparts, Option.bind_eq_bind, Option.bind_some]
      rfl
    rw [hentry, hentry, hentry]
    exact hread

theorem decode_eq_some (h : decode document = some config) :
    orElse none (fun value => (value.natural? UInt32.size).map fun n => some (UInt32.ofNat n))
        (document.lookup "enabled") = some config.enabled ∧
      orElse {} decodeLog (document.lookup "log") = some config.log ∧
      orElse [] (fun value => do (← value.elements?).mapM decodeWatch)
        (document.lookup "watch") = some config.watches := by
  obtain ⟨enabled, henabled, h⟩ := Option.bind_eq_some_iff.mp h
  obtain ⟨log, hlog, h⟩ := Option.bind_eq_some_iff.mp h
  obtain ⟨watches, hwatches, h⟩ := Option.bind_eq_some_iff.mp h
  cases h
  exact ⟨henabled, hlog, hwatches⟩

theorem exists_document_of_parse {parser : Parser} {text : String}
    (h : parse parser text = .ok config) :
    ∃ document, parser text = some document ∧ decode document = some config := by
  unfold parse at h
  split at h
  · rename_i hsome
    cases h
    exact Option.bind_eq_some_iff.mp hsome
  · cases h

end Config

namespace CommandLine

open Config

-- Two documents that say the same, but for what the command line replaces in the log.
structure SameBut (line : CommandLine) (document document' : Entries) : Prop where
  enabled : document'.lookup "enabled" = document.lookup "enabled"
  watch : document'.lookup "watch" = document.lookup "watch"
  path : line.logFile = none → logEntry document' 0 = logEntry document 0
  rotatedPath : line.rotatedFile = none → logEntry document' 1 = logEntry document 1
  maxBytes : line.maxBytes = none → logEntry document' 2 = logEntry document 2

section Entries

variable {α : Type} {default value value' : α} {read : Value → Option α}
  {entry entry' : Option Value} {given : Option α}

theorem eq_of_entry (hsame : entry' = entry) (h : orElse default read entry = some value)
    (h' : orElse default read entry' = some value') : value' = value := by
  rw [hsame, h] at h'
  exact (Option.some.inj h').symm

-- A part that is replaced need not be the same.
theorem getD_eq_of_entry (hsame : given = none → entry' = entry)
    (h : orElse default read entry = some value) (h' : orElse default read entry' = some value') :
    given.getD value' = given.getD value := by
  cases given with
  | some _ => rfl
  | none => exact eq_of_entry (hsame rfl) h h'

end Entries

variable {line : CommandLine} {document document' : Entries} {config config' : Config}

theorem SameBut.override_eq (hsame : line.SameBut document document')
    (h : decode document = some config) (h' : decode document' = some config') :
    line.override config' = line.override config := by
  obtain ⟨henabled, hlog, hwatches⟩ := decode_eq_some h
  obtain ⟨henabled', hlog', hwatches'⟩ := decode_eq_some h'
  obtain ⟨hpath, hrotated, hbytes⟩ := logEntry_of_decode hlog
  obtain ⟨hpath', hrotated', hbytes'⟩ := logEntry_of_decode hlog'
  unfold override
  rw [eq_of_entry hsame.enabled henabled henabled', eq_of_entry hsame.watch hwatches hwatches',
    getD_eq_of_entry hsame.path hpath hpath',
    getD_eq_of_entry hsame.rotatedPath hrotated hrotated',
    getD_eq_of_entry hsame.maxBytes hbytes hbytes']

section Load

variable {φ : Type} [FileSystem φ] {parser : Parser} {files : φ} {text : String}

-- What is in the file is checked before and after something is replaced.
theorem value_loadConfig (hread : (readText files line.config).1 = .ok text)
    (hparse : Config.parse parser text = .ok config) :
    (line.loadConfig parser files).value.1 =
      config.validate.bind fun _ =>
        (line.override config).validate.map fun _ => line.override config := by
  rcases hfile : readText files line.config with ⟨found, files'⟩
  rw [hfile] at hread
  cases hread
  have hloaded : (loadFile parser files line.config).value =
      (config.validate.map fun _ => config, files') := by
    simp only [loadFile, hfile, Traced.value_pure, load_of_parse hparse]
  cases hvalid : config.validate with
  | error error =>
    rw [hvalid] at hloaded
    rw [value_loadConfig_of_error hloaded]
    rfl
  | ok _ =>
    rw [hvalid] at hloaded
    rw [value_loadConfig_of_ok hloaded]
    rfl

theorem loadConfig_of_fault (hread : (readText files line.config).1 = .ok text)
    (hparse : Config.parse parser text = .ok config) {error : ConfigError} (h : config.Fault error) :
    (line.loadConfig parser files).value.1 = .error error := by
  rw [value_loadConfig hread hparse, validate_of_fault h]
  rfl

theorem loadConfig_of_sensible (hread : (readText files line.config).1 = .ok text)
    (hparse : Config.parse parser text = .ok config) (h : config.Sensible) :
    (line.loadConfig parser files).value.1 =
      (line.override config).validate.map fun _ => line.override config := by
  rw [value_loadConfig hread hparse, validate_of_sensible h]
  rfl

-- A file that makes sense as it stands is loaded as if what the command line replaces had never
-- been in it. One that does not is refused, also for what would have been replaced.
theorem loadConfig_of_parse (hread : (readText files line.config).1 = .ok text)
    (hparse : Config.parse parser text = .ok config) :
    let overridden := line.override config
    let result := (line.loadConfig parser files).value.1
    (config.Sensible →
        (∀ loaded, result = .ok loaded ↔ overridden.Sensible ∧ loaded = overridden) ∧
        ∀ error, result = .error error ↔ overridden.Fault error) ∧
      (∀ error, config.Fault error → result = .error error) ∧
      ∀ (files' : φ) (path' text' : String) (config' : Config),
        (readText files' path').1 = .ok text' → Config.parse parser text' = .ok config' →
        (∀ document ∈ parser text, ∀ document' ∈ parser text',
          line.SameBut document document') →
        config.Sensible → config'.Sensible →
          (({ line with config := path' } : CommandLine).loadConfig parser files').value.1 = result := by
  intro overridden result
  refine ⟨?_, fun error => loadConfig_of_fault hread hparse, ?_⟩
  · intro hsensible
    have hresult : result = overridden.validate.map fun _ => overridden :=
      loadConfig_of_sensible hread hparse hsensible
    simp only [hresult, ← validate_eq_ok_iff, ← validate_eq_error_iff]
    cases overridden.validate with
    | error found => simp [Except.map]
    | ok _ => simp [Except.map, eq_comm]
  · intro files' path' text' config' hread' hparse' hsame hsensible hsensible'
    obtain ⟨document, hdocument, hdecode⟩ := exists_document_of_parse hparse
    obtain ⟨document', hdocument', hdecode'⟩ := exists_document_of_parse hparse'
    have hover : line.override config' = overridden :=
      (hsame document hdocument document' hdocument').override_eq hdecode hdecode'
    let line' : CommandLine := { line with config := path' }
    have hrun : (line'.loadConfig parser files').value.1 =
        (line.override config').validate.map fun _ => line.override config' :=
      loadConfig_of_sensible hread' hparse' hsensible'
    rw [hover] at hrun
    exact hrun.trans (loadConfig_of_sensible hread hparse hsensible).symm

end Load

-- A disk with one file, which says this.
def fileDisk (text : String) : FaultyDisk :=
  { disk := Disk.empty.addFile ["kauditd.toml".toList] 0o644 (Text.utf8 text) }

-- The limit is all that the two files do not agree on, and the command line has one of its own.
theorem loadConfig_of_parse_two_limits :
    let line : CommandLine := { config := "/kauditd.toml", maxBytes := some 5 }
    let text := "[log]\nmax_bytes = 7\n"
    let text' := "[log]\nmax_bytes = 8\n"
    let config : Config := { log := { maxBytes := 7 } }
    (readText (fileDisk text) line.config).1 = .ok text ∧ Config.parse parse? text = .ok config ∧
      (line.loadConfig parse? (fileDisk text)).value.1 = .ok { log := { maxBytes := 5 } } ∧
      (line.loadConfig parse? (fileDisk text')).value.1 = (line.loadConfig parse? (fileDisk text)).value.1 := by
  intro line text text' config
  have hread : (readText (fileDisk text) line.config).1 = .ok text := by decide +kernel
  have hparse : Config.parse parse? text = .ok config := by decide +kernel
  obtain ⟨hloads, -, hagree⟩ := loadConfig_of_parse hread hparse
  have hsensible : config.Sensible := validate_eq_ok_iff.mp (by decide +kernel)
  have hover : (line.override config).Sensible := validate_eq_ok_iff.mp (by decide +kernel)
  refine ⟨hread, hparse, ((hloads hsensible).1 _).mpr ⟨hover, rfl⟩, ?_⟩
  have hread' : (readText (fileDisk text') line.config).1 = .ok text' := by decide +kernel
  have hparse' : Config.parse parse? text' = .ok { log := { maxBytes := 8 } } := by decide +kernel
  have hsensible' : Config.Sensible { log := { maxBytes := 8 } } :=
    validate_eq_ok_iff.mp (by decide +kernel)
  apply hagree (fileDisk text') line.config text' _ hread' hparse' ?_ hsensible hsensible'
  intro document hdocument document' hdocument'
  have htable : parse? "[log]\nmax_bytes = 7\n" =
      some [("log", .table .defined [("max_bytes", .integer 7)])] := rfl
  have htable' : parse? "[log]\nmax_bytes = 8\n" =
      some [("log", .table .defined [("max_bytes", .integer 8)])] := rfl
  obtain rfl := Option.some.inj (htable.symm.trans hdocument)
  obtain rfl := Option.some.inj (htable'.symm.trans hdocument')
  exact ⟨rfl, rfl, fun _ => rfl, fun _ => rfl, nofun⟩

-- What makes no sense in the file is told, though it would have been replaced. Had another limit
-- been there, all would be well.
theorem loadConfig_of_replaced_fault :
    let line : CommandLine := { config := "/kauditd.toml", maxBytes := some 5 }
    let text := "[log]\nmax_bytes = 0\n"
    let text' := "[log]\nmax_bytes = 8\n"
    let config : Config := { log := { maxBytes := 0 } }
    (readText (fileDisk text) line.config).1 = .ok text ∧ Config.parse parse? text = .ok config ∧
      (line.override config).Sensible ∧
      (line.loadConfig parse? (fileDisk text)).value.1 = .error .zeroMaxBytes ∧
      (line.loadConfig parse? (fileDisk text')).value.1 = .ok (line.override config) := by
  intro line text text' config
  have hover : (line.override config).Sensible := validate_eq_ok_iff.mp (by decide +kernel)
  exact ⟨by decide +kernel, by decide +kernel, hover, by decide +kernel, by decide +kernel⟩

end CommandLine

end AuditCollector
