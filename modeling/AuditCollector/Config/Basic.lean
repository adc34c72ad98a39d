import AuditCollector.EnabledState
import AuditCollector.Path
import AuditCollector.Rule.Basic
import AuditCollector.Text.Utf8

namespace AuditCollector

open Rule

structure FieldConfig where
  field : Field
  operator : Operator := .equal
  value : String
deriving DecidableEq, Repr

-- A directory to watch. Without a list of permissions all access is reported.
structure WatchConfig where
  path : String
  permissions : Option (List Permission) := none
  fields : List FieldConfig := []
deriving DecidableEq, Repr

structure LogConfig where
  path : String := "/data/misc/audit/audit.log"
  rotatedPath : String := "/data/misc/audit/audit.old"
  maxBytes : Nat := 102400
deriving DecidableEq, Repr

-- What the daemon is told to do. Without `enabled` the kernel's state stays as it is.
structure Config where
  enabled : Option UInt32 := none
  log : LogConfig := {}
  watches : List WatchConfig := []
deriving DecidableEq, Repr

def Config.defaultPath : String := "/etc/kauditd.toml"

def Config.enabledState? (config : Config) : Option EnabledState :=
  config.enabled.bind fun value => (EnabledState.ofUInt32 value).toOption

def WatchConfig.rule (accounts : Accounts) (watch : WatchConfig) : Except RuleError Rule := do
  let rule := Rule.directoryWatch (Text.utf8 watch.path)
  let rule ←
    match watch.permissions with
    | some permissions => rule.setPermissions (Permission.mask permissions)
    | none => pure rule
  watch.fields.foldlM
    (fun rule field => rule.addField accounts field.field field.operator field.value) rule

inductive ConfigError where
  | parse (text : String)
  | read (path : String) (source : IoError)
  | zeroMaxBytes
  | emptyPath (key : String)
  | sameLogPaths
  | invalidEnabled (value : UInt32)
deriving DecidableEq, Repr

def ConfigError.message : ConfigError → String
  | parse text => "TOML parse error: " ++ text
  | read path source => "failed to read " ++ path ++ ": " ++ source.message
  | zeroMaxBytes => "log.max_bytes must be > 0"
  | emptyPath key => "empty " ++ key
  | sameLogPaths => "log.path and log.rotated_path must differ"
  | invalidEnabled value => "enabled must be 0, 1 or 2 (got " ++ toString value.toNat ++ ")"

-- Whether a configuration makes sense. The first thing that does not is told.
def Config.validate (config : Config) : Except ConfigError Unit := do
  if let some value := config.enabled then
    if EnabledState.locked.toUInt32 < value then throw (.invalidEnabled value)
  let log := config.log
  if log.maxBytes = 0 then throw .zeroMaxBytes
  if log.path.isEmpty then throw (.emptyPath "log.path")
  if log.rotatedPath.isEmpty then throw (.emptyPath "log.rotated_path")
  if Path.components log.path = Path.components log.rotatedPath then throw .sameLogPaths
  if config.watches.any (·.path.isEmpty) then throw (.emptyPath "watch.path")

end AuditCollector
