import AuditCollector.Daemon
import AuditCollector.System.Absent
import AuditCollector.Toml.Document

namespace AuditCollector

-- The files that the program sees: the configuration, as it was read before. All
-- others are out of reach.
structure LoadedFile where
  content : Except IoError Bytes

namespace LoadedFile

def readOnly : IoError := .os 30

instance : FileSystem LoadedFile where
  size file _ := (.error readOnly, file)
  rename file _ _ := (.error readOnly, file)
  openFile file _ _ := (.error readOnly, file)
  setMode file _ _ := (.error readOnly, file)
  write file _ _ := (.error readOnly, file)
  flush file _ := (.error readOnly, file)
  readFile file _ := (file.content, file)
  remaining _ := 0
  write_accepted h := by simp at h
  write_interrupted h := by simp [readOnly] at h

def read (path : String) : IO LoadedFile := do
  try
    return ⟨.ok (← IO.FS.readBinFile path).toList⟩
  catch error =>
    match error with
    | .noFileOrDirectory .. => return ⟨.error .notFound⟩
    | _ => return ⟨.error (.other (toString error))⟩

end LoadedFile

def CommandLine.usage : String :=
  "Usage: kauditd [--config PATH] [--log-file PATH] [--rotated-file PATH] [--max-bytes N]"

def CommandLine.Refusal.text : CommandLine.Refusal → String
  | help => usage
  | version => "kauditd 0.1.0"
  | unknownArgument => "error: unexpected argument"
  | missingValue => "error: a value is required"
  | badNumber => "error: invalid number"
  | repeatedOption => "error: an option cannot be used multiple times"
  | unwantedValue => "error: unexpected value"

end AuditCollector

open AuditCollector

def main (arguments : List String) : IO UInt32 := do
  match CommandLine.parse ("kauditd" :: arguments) with
  | .error refusal =>
    if refusal.exitCode = 0 then IO.println refusal.text
    else IO.eprintln refusal.text
    return UInt32.ofNat refusal.exitCode
  | .ok line =>
    let files ← LoadedFile.read line.config
    let ran := Daemon.run Toml.parse? Rule.Accounts.standard line 0 AbsentSystem.mk files
    match ran.value.1 with
    | .ok () => return 0
    | .error error =>
      IO.eprintln ("kauditd: " ++ error.message)
      return UInt32.ofNat error.exitCode.toNat
