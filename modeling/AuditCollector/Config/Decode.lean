import AuditCollector.Config.Basic
import AuditCollector.Toml.Value

namespace AuditCollector

open Rule Toml

namespace Toml.Value

-- The parts of a record, by the names that they have in a table. A list gives them
-- in order. What is missing has no value, what is not asked for is ignored. A date
-- is a record without any of the parts.
def parts? (value : Value) (names : List String) : Option (List (Option Value)) :=
  match value with
  | .table _ entries => some (names.map fun name => entries.lookup name)
  | .array elements => some ((List.range names.length).map fun i => elements[i]?)
  | .tables elements =>
    some ((List.range names.length).map fun i => (elements.reverse[i]?).map (.table .defined))
  | .moment => some (names.map fun _ => none)
  | _ => none

def text? : Value → Option String
  | .string text => some text
  | _ => none

def elements? : Value → Option (List Value)
  | .array elements => some elements
  | .tables elements => some (elements.reverse.map (.table .defined))
  | _ => none

def natural? (bound : Nat) : Value → Option Nat
  | .integer n => if 0 ≤ n ∧ n < bound then some n.toNat else none
  | _ => none

def isEmpty : Value → Bool
  | .table _ [] | .array [] | .tables [] => true
  | _ => false

-- One of a few words, as a string or as the only key of a table with nothing in it.
def word? : Value → Option String
  | .string word => some word
  | .table _ [(word, content)] => if content.isEmpty then some word else none
  | _ => none

end Toml.Value

namespace Config

def orElse {α : Type} (default : α) (decode : Value → Option α) : Option Value → Option α
  | none => some default
  | some value => decode value

def decodeField (value : Value) : Option FieldConfig := do
  match ← value.parts? ["field", "op", "value"] with
  | [field, operator, value] =>
    let field ← (← field).word?
    let operator ← orElse .equal (fun value => value.word?.bind Operator.ofSymbol?) operator
    return { field := ← Field.ofName? field, operator, value := ← (← value).text? }
  | _ => none

def decodePermissions (value : Value) : Option (List Permission) := do
  (← value.elements?).mapM fun value => value.word?.bind Permission.ofName?

def decodeWatch (value : Value) : Option WatchConfig := do
  match ← value.parts? ["path", "permissions", "fields"] with
  | [path, permissions, fields] =>
    return {
      path := ← (← path).text?
      permissions := ← orElse none (fun value => (decodePermissions value).map some) permissions
      fields := ← orElse [] (fun value => do (← value.elements?).mapM decodeField) fields }
  | _ => none

def decodeLog (value : Value) : Option LogConfig := do
  let default : LogConfig := {}
  match ← value.parts? ["path", "rotated_path", "max_bytes"] with
  | [path, rotatedPath, maxBytes] =>
    return {
      path := ← orElse default.path Value.text? path
      rotatedPath := ← orElse default.rotatedPath Value.text? rotatedPath
      maxBytes := ← orElse default.maxBytes (Value.natural? UInt64.size) maxBytes }
  | _ => none

def decode (document : Entries) : Option Config := do
  let enabled (value : Value) : Option (Option UInt32) :=
    (value.natural? UInt32.size).map fun n => some (UInt32.ofNat n)
  return {
    enabled := ← orElse none enabled (document.lookup "enabled")
    log := ← orElse {} decodeLog (document.lookup "log")
    watches := ← orElse [] (fun value => do (← value.elements?).mapM decodeWatch)
      (document.lookup "watch") }

-- Reads a configuration. It need not make sense.
def parse (parser : Toml.Parser) (text : String) : Except ConfigError Config :=
  match (parser text).bind decode with
  | some config => .ok config
  | none => .error (.parse "not a configuration")

-- Reads a configuration that makes sense.
def load (parser : Toml.Parser) (text : String) : Except ConfigError Config := do
  let config ← parse parser text
  config.validate
  return config

end Config

end AuditCollector
