import AuditCollector.Bytes
import AuditCollector.IoError

namespace AuditCollector

structure FileHandle where
  number : Nat
deriving DecidableEq, Repr

-- Files by name, with `φ` their state and whatever decides about failures.
--
-- As for channels, `remaining` bounds how often a write can still be interrupted.
class FileSystem (φ : Type) where
  size : φ → (path : String) → Except IoError Nat × φ
  rename : φ → (old new : String) → Except IoError Unit × φ
  -- Opens for writing from the start, and makes a missing file with the mode.
  openFile : φ → (path : String) → (mode : Nat) → Except IoError FileHandle × φ
  setMode : φ → FileHandle → (mode : Nat) → Except IoError Unit × φ
  write : φ → FileHandle → Bytes → Except IoError Nat × φ
  flush : φ → FileHandle → Except IoError Unit × φ
  readFile : φ → (path : String) → Except IoError Bytes × φ
  remaining : φ → Nat
  write_accepted {f f' : φ} {file : FileHandle} {data : Bytes} {accepted : Nat} :
    write f file data = (.ok accepted, f') → accepted ≤ data.length ∧ remaining f' ≤ remaining f
  write_interrupted {f f' : φ} {file : FileHandle} {data : Bytes} :
    write f file data = (.error .interrupted, f') → remaining f' < remaining f

end AuditCollector
