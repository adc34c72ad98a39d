import AuditCollector.Proofs.Log.Commands

namespace AuditCollector.Log

-- A call that can change what files hold, or which file has a name, and what came of it.
inductive FileCall where
  | write (file : FileHandle) (data : Bytes) (result : Except IoError Nat)
  | rename (old new : String) (result : Except IoError Unit)
  | openFile (path : String) (result : Except IoError FileHandle)
deriving Repr

-- Files of any kind, with a journal of the calls that were made to them. The latest call
-- comes first.
structure Journaled (φ : Type) where
  files : φ
  calls : List FileCall := []

namespace Journaled

variable {φ : Type} [FileSystem φ]

def rename (journaled : Journaled φ) (old new : String) : Except IoError Unit × Journaled φ :=
  let (result, files) := FileSystem.rename journaled.files old new
  (result, { files, calls := .rename old new result :: journaled.calls })

def openFile (journaled : Journaled φ) (path : String) (mode : Nat) :
    Except IoError FileHandle × Journaled φ :=
  let (result, files) := FileSystem.openFile journaled.files path mode
  (result, { files, calls := .openFile path result :: journaled.calls })

def write (journaled : Journaled φ) (file : FileHandle) (data : Bytes) :
    Except IoError Nat × Journaled φ :=
  let (result, files) := FileSystem.write journaled.files file data
  (result, { files, calls := .write file data result :: journaled.calls })

-- The other calls leave no trace in the journal.
def untold {α : Type} (journaled : Journaled φ) (call : φ → α × φ) : α × Journaled φ :=
  let (result, files) := call journaled.files
  (result, { journaled with files })

instance : FileSystem (Journaled φ) where
  size journaled path := journaled.untold (FileSystem.size · path)
  rename := rename
  openFile := openFile
  setMode journaled file mode := journaled.untold (FileSystem.setMode · file mode)
  write := write
  flush journaled file := journaled.untold (FileSystem.flush · file)
  readFile journaled path := journaled.untold (FileSystem.readFile · path)
  remaining journaled := FileSystem.remaining journaled.files
  write_accepted {f f' file data accepted} h := by
    obtain ⟨hresult, rfl⟩ := Prod.mk.inj h
    exact FileSystem.write_accepted (Prod.ext hresult rfl)
  write_interrupted {f f' file data} h := by
    obtain ⟨hresult, rfl⟩ := Prod.mk.inj h
    exact FileSystem.write_interrupted (Prod.ext hresult rfl)

section Calls

variable {journaled : Journaled φ} {files : φ}

theorem write_eq {file : FileHandle} {data : Bytes} {result : Except IoError Nat}
    (h : FileSystem.write journaled.files file data = (result, files)) :
    FileSystem.write journaled file data =
      (result, { files, calls := .write file data result :: journaled.calls }) := by
  change journaled.write file data = _
  rw [write, h]

theorem rename_eq {old new : String} {result : Except IoError Unit}
    (h : FileSystem.rename journaled.files old new = (result, files)) :
    FileSystem.rename journaled old new =
      (result, { files, calls := .rename old new result :: journaled.calls }) := by
  change journaled.rename old new = _
  rw [rename, h]

-- Opening a file for the log is one call in the journal, setting its mode is none.
theorem value_openFile {path : String} {result : Except IoError FileHandle}
    (h : (Log.openFile journaled.files path).value = (result, files)) :
    (Log.openFile journaled path).value =
      (result, { files, calls := .openFile path result :: journaled.calls }) := by
  have hjournaled : FileSystem.openFile journaled path fileMode = journaled.openFile path fileMode :=
    rfl
  rcases hopen : FileSystem.openFile journaled.files path fileMode with ⟨_ | file, files'⟩
  · rw [Journaled.openFile, hopen] at hjournaled
    rw [openFile_of_error hopen] at h
    obtain ⟨rfl, rfl⟩ := Prod.mk.inj h
    exact openFile_of_error hjournaled
  · rw [Journaled.openFile, hopen] at hjournaled
    rw [openFile_of_ok hopen] at h
    obtain ⟨rfl, rfl⟩ := Prod.mk.inj h
    exact openFile_of_ok hjournaled

end Calls

theorem forgets_files : Forgets (files : Journaled φ → φ) where
  rename _ _ _ := rfl
  openFile _ _ _ := rfl
  setMode _ _ _ := rfl
  write _ _ _ := rfl

end Journaled

namespace FileCall

-- The bytes that the system accepted in a call.
def accepted : FileCall → Bytes
  | .write _ data (.ok n) => data.take n
  | _ => []

-- The bytes that were accepted since the last rename that worked, or since the journal
-- began.
def sinceRename : List FileCall → Bytes
  | [] => []
  | .rename _ _ (.ok ()) :: _ => []
  | call :: earlier => sinceRename earlier ++ call.accepted

-- The bytes that were accepted between the last two renames that worked, or between the
-- beginning and the only one.
def beforeRename? : List FileCall → Option Bytes
  | [] => none
  | .rename _ _ (.ok ()) :: earlier => some (sinceRename earlier)
  | _ :: earlier => beforeRename? earlier

-- Whether a file was opened again after the last rename that worked.
def reopened : List FileCall → Bool
  | [] => true
  | .rename _ _ (.ok ()) :: _ => false
  | .openFile _ (.ok _) :: _ => true
  | _ :: earlier => reopened earlier

def failed : FileCall → Bool
  | .write _ _ (.error _) | .rename _ _ (.error _) | .openFile _ (.error _) => true
  | _ => false

-- A call that failed belongs to no generation, and ends none.
section Failed

variable {call : FileCall} (h : call.failed = true) (earlier : List FileCall)

include h

theorem sinceRename_of_failed : sinceRename (call :: earlier) = sinceRename earlier := by
  unfold failed at h
  split at h
  · simp [sinceRename, accepted]
  · simp [sinceRename, accepted]
  · simp [sinceRename, accepted]
  · cases h

theorem beforeRename?_of_failed : beforeRename? (call :: earlier) = beforeRename? earlier := by
  unfold failed at h
  split at h
  · rfl
  · rfl
  · rfl
  · cases h

theorem reopened_of_failed : reopened (call :: earlier) = reopened earlier := by
  unfold failed at h
  split at h
  · rfl
  · rfl
  · rfl
  · cases h

end Failed

end FileCall

-- The calls that a rotation takes, the earliest first.
def Rotation.calls (log : Log) : Rotation → List FileCall
  | unneeded => []
  | stuck error => [.rename log.active log.rotated (.error error)]
  | lost error => [.rename log.active log.rotated (.ok ()), .openFile log.active (.error error)]
  | fresh file => [.rename log.active log.rotated (.ok ()), .openFile log.active (.ok file)]

theorem Rotates.journaled {φ : Type} [FileSystem φ] {log : Log} {files files' : φ} {rotation : Rotation}
    (h : Rotates log files rotation files') (earlier : List FileCall) :
    Rotates log (⟨files, earlier⟩ : Journaled φ) rotation
      ⟨files', (rotation.calls log).reverse ++ earlier⟩ := by
  cases h with
  | unneeded hsmall => exact .unneeded hsmall
  | stuck hlarge hrename => exact .stuck hlarge (Journaled.rename_eq hrename)
  | lost hlarge hrename hopen =>
    exact .lost hlarge (Journaled.rename_eq hrename) (Journaled.value_openFile hopen)
  | fresh hlarge hrename hopen =>
    exact .fresh hlarge (Journaled.rename_eq hrename) (Journaled.value_openFile hopen)

end AuditCollector.Log
