import AuditCollector.Config.File
import AuditCollector.Text.Digits

namespace AuditCollector

-- What the command line says. Only the configuration file always has a path.
structure CommandLine where
  config : String := Config.defaultPath
  logFile : Option String := none
  rotatedFile : Option String := none
  maxBytes : Option Nat := none
deriving DecidableEq, Repr

namespace CommandLine

-- Why the command line is not acted on. Help and version are asked for, the rest
-- are mistakes.
inductive Refusal where
  | help
  | version
  | unknownArgument
  | missingValue
  | badNumber
  | repeatedOption
  | unwantedValue
deriving DecidableEq, Repr

def Refusal.exitCode : Refusal → Nat
  | help | version => 0
  | _ => 2

-- The options, all of which take a value.
inductive Key where
  | config | logFile | rotatedFile | maxBytes
deriving DecidableEq, Repr

def Key.ofName? : String → Option Key
  | "config" => some config
  | "log-file" => some logFile
  | "rotated-file" => some rotatedFile
  | "max-bytes" => some maxBytes
  | _ => none

structure Given where
  config : Option String := none
  logFile : Option String := none
  rotatedFile : Option String := none
  maxBytes : Option Nat := none
deriving DecidableEq, Repr

-- An unsigned number of 64 bits. A plus sign in front is allowed.
def number? (text : String) : Option Nat := do
  let digits :=
    match text.toList with
    | '+' :: digits => digits
    | digits => digits
  let digits ← digits.mapM (Text.digit? 10)
  if digits = [] then none else Text.ofDigitsBelow? UInt64.size 10 digits

def path? (text : String) : Except Refusal (Option String) :=
  if text.isEmpty then .error .missingValue else .ok (some text)

def Given.has (given : Given) : Key → Bool
  | .config => given.config.isSome
  | .logFile => given.logFile.isSome
  | .rotatedFile => given.rotatedFile.isSome
  | .maxBytes => given.maxBytes.isSome

-- Takes an option with its value. That there is a value is asked first, then that
-- it is the only one, then what it says.
def Given.set (given : Given) (key : Key) (value : Option String) : Except Refusal Given := do
  match value with
  | none => throw .missingValue
  | some value =>
    if given.has key then throw .repeatedOption
    match key with
    | .config => return { given with config := ← path? value }
    | .logFile => return { given with logFile := ← path? value }
    | .rotatedFile => return { given with rotatedFile := ← path? value }
    | .maxBytes =>
      match number? value with
      | some n => return { given with maxBytes := some n }
      | none => throw .badNumber

-- An option whose value is the next argument, with that value once it was there.
abbrev Open := Option (Key × Option String)

def Given.settle (given : Given) : Open → Except Refusal Given
  | none => .ok given
  | some (key, value) => given.set key value

def splitAtEquals (text : List Char) : String × Option String :=
  let name := String.ofList (text.takeWhile (· ≠ '='))
  match text.dropWhile (· ≠ '=') with
  | _ :: value => (name, some (String.ofList value))
  | [] => (name, none)

-- Goes through the arguments from left to right. An argument that nothing is known
-- about is refused before the open option is looked at.
def scan (given : Given) (pending : Open) : List String → Except Refusal Given
  | [] => given.settle pending
  | argument :: rest =>
    match argument.toList with
    | ['-', '-'] => if rest = [] then given.settle pending else throw .unknownArgument
    | '-' :: '-' :: option =>
      let (name, value) := splitAtEquals option
      match Key.ofName? name, value with
      | some key, some value => do
        let given ← given.settle pending
        let given ← given.set key (some value)
        scan given none rest
      | some key, none => do
        let given ← given.settle pending
        scan given (some (key, none)) rest
      | none, value =>
        if name = "help" ∨ name = "version" then
          if value.isSome then throw .unwantedValue
          else do
            let _ ← given.settle pending
            throw (if name = "help" then .help else .version)
        else throw .unknownArgument
    | '-' :: letter :: _ =>
      if letter = 'h' ∨ letter = 'V' then do
        let _ ← given.settle pending
        throw (if letter = 'h' then .help else .version)
      else throw .unknownArgument
    | _ =>
      match pending with
      | some (key, none) => scan given (some (key, some argument)) rest
      | _ => throw .unknownArgument

def parse (arguments : List String) : Except Refusal CommandLine := do
  let given ← scan {} none arguments.tail
  return {
    config := given.config.getD Config.defaultPath
    logFile := given.logFile
    rotatedFile := given.rotatedFile
    maxBytes := given.maxBytes }

def override (line : CommandLine) (config : Config) : Config :=
  { config with log := {
      path := line.logFile.getD config.log.path
      rotatedPath := line.rotatedFile.getD config.log.rotatedPath
      maxBytes := line.maxBytes.getD config.log.maxBytes } }

-- Loads the configuration that the command line asks for. It must make sense as it
-- is in the file, and again with the changes.
def loadConfig {φ : Type} [FileSystem φ] (parser : Toml.Parser) (line : CommandLine) (files : φ) :
    Traced (Except ConfigError Config × φ) := do
  let (loaded, files) ← Config.loadFile parser files line.config
  match loaded with
  | .error error => return (.error error, files)
  | .ok config =>
    let config := line.override config
    return (config.validate.map fun _ => config, files)

end CommandLine

end AuditCollector
