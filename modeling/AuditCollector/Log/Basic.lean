import AuditCollector.FileSystem
import AuditCollector.Text.Quoted
import AuditCollector.Traced

namespace AuditCollector

-- A log of records, each followed by a newline. Once more than `threshold` bytes
-- are in the active file it is moved to the rotated path and a new one started,
-- so at most two generations exist. After a failed start there is no file.
structure Log where
  file : Option FileHandle
  bytesWritten : Nat
  threshold : Nat
  active : String
  rotated : String
deriving DecidableEq, Repr

namespace Log

variable {φ : Type} [FileSystem φ]

-- Log files are for their owner, and for the group to read.
def fileMode : Nat := 0o640

def separator : Bytes := [0x0A]

-- Opens a log file. What the creation mode lost is set afterwards, which may fail.
def openFile (files : φ) (path : String) : Traced (Except IoError FileHandle × φ) := do
  match FileSystem.openFile files path fileMode with
  | (.error error, files) => return (.error error, files)
  | (.ok file, files) =>
    match FileSystem.setMode files file fileMode with
    | (.ok (), files) => return (.ok file, files)
    | (.error error, files) =>
      Traced.emit (.logModeRefused path error)
      return (.ok file, files)

-- Starts a log in a file that is empty or missing.
def create (files : φ) (active rotated : String) (threshold : Nat) :
    Traced (Except LogError Log × φ) := do
  let (opened, files) ← openFile files active
  match opened with
  | .error error =>
    Traced.emit (.logOpenFailed active error)
    return (.error (.io .openFile active error), files)
  | .ok file =>
    Traced.emit (.logOpened active rotated threshold)
    return (.ok { file, bytesWritten := 0, threshold, active, rotated }, files)

-- Starts a log. A previous log that holds anything is moved aside first, an empty
-- file is used again.
def start (files : φ) (active rotated : String) (threshold : Nat) :
    Traced (Except LogError Log × φ) := do
  match FileSystem.size files active with
  | (.ok 0, files) => create files active rotated threshold
  | (.ok (_ + 1), files) =>
    match FileSystem.rename files active rotated with
    | (.ok (), files) => create files active rotated threshold
    | (.error error, files) =>
      Traced.emit (.previousLogStuck active rotated error)
      return (.error (.io .rename active error), files)
  | (.error error, files) =>
    if error = .notFound then create files active rotated threshold
    else
      Traced.emit (.logStatFailed active error)
      return (.error (.io .stat active error), files)

structure Written (φ : Type) where
  accepted : Nat
  unwritten : Nat
  failure : Option IoError
  files : φ

-- Writes until nothing is left or a write fails. Accepting nothing is a failure,
-- an interruption is not.
def writeAll (files : φ) (file : FileHandle) (data : Bytes) : Written φ :=
  if data = [] then ⟨0, 0, none, files⟩
  else
    match h : FileSystem.write files file data with
    | (.ok 0, files) => ⟨0, data.length, some .writeZero, files⟩
    | (.ok (n + 1), files') =>
      have := FileSystem.write_accepted h
      let rest := writeAll files' file (data.drop (n + 1))
      { rest with accepted := n + 1 + rest.accepted }
    | (.error error, files') =>
      if interrupted : error = .interrupted then
        have := FileSystem.write_interrupted (interrupted ▸ h)
        writeAll files' file data
      else ⟨0, data.length, some error, files'⟩
termination_by FileSystem.remaining files + data.length
decreasing_by
  · simp only [List.length_drop]
    omega
  · omega

section Writing

variable {files files' : φ} {file : FileHandle} {data : Bytes} {n : Nat} {error : IoError}

theorem writeAll_nil (files : φ) (file : FileHandle) :
    writeAll files file [] = ⟨0, 0, none, files⟩ := by
  rw [writeAll, if_pos rfl]

theorem writeAll_of_nothing (hdata : data ≠ [])
    (h : FileSystem.write files file data = (.ok 0, files')) :
    writeAll files file data = ⟨0, data.length, some .writeZero, files'⟩ := by
  rw [writeAll, if_neg hdata]
  split
  · rename_i hwrite
    obtain ⟨-, rfl⟩ := Prod.mk.inj (h.symm.trans hwrite)
    rfl
  · rename_i hwrite
    simp [h] at hwrite
  · rename_i hwrite
    simp [h] at hwrite

theorem writeAll_of_some (hdata : data ≠ [])
    (h : FileSystem.write files file data = (.ok (n + 1), files')) :
    writeAll files file data =
      { writeAll files' file (data.drop (n + 1)) with
        accepted := n + 1 + (writeAll files' file (data.drop (n + 1))).accepted } := by
  rw [writeAll, if_neg hdata]
  split
  · rename_i hwrite
    simp [h] at hwrite
  · rename_i hwrite
    obtain ⟨heq, rfl⟩ := Prod.mk.inj (h.symm.trans hwrite)
    cases heq
    rfl
  · rename_i hwrite
    simp [h] at hwrite

theorem writeAll_of_error (hdata : data ≠ [])
    (h : FileSystem.write files file data = (.error error, files')) :
    writeAll files file data =
      if error = .interrupted then writeAll files' file data
      else ⟨0, data.length, some error, files'⟩ := by
  rw [writeAll, if_neg hdata]
  split
  · rename_i hwrite
    simp [h] at hwrite
  · rename_i hwrite
    simp [h] at hwrite
  · rename_i hwrite
    obtain ⟨heq, rfl⟩ := Prod.mk.inj (h.symm.trans hwrite)
    cases heq
    rfl

end Writing

-- Moves the active file to the rotated path and starts a new one. If the move
-- fails the file stays in use, if the start fails the log is left without one.
def rotate (log : Log) (files : φ) : Traced (Except LogError Unit × Log × φ) := do
  match FileSystem.rename files log.active log.rotated with
  | (.error error, files) =>
    Traced.emit (.rotationStuck log.active log.rotated error)
    return (.error (.rotationFailed log.rotated error), log, files)
  | (.ok (), files) =>
    let bytes := log.bytesWritten
    let log := { log with file := none, bytesWritten := 0 }
    let (opened, files) ← openFile files log.active
    match opened with
    | .ok file =>
      Traced.emit (.logRotated log.rotated bytes)
      return (.ok (), { log with file := some file }, files)
    | .error error =>
      Traced.emit (.logReopenFailed log.active error)
      return (.error (.rotationFailed log.active error), log, files)

def rotateIfLarge (log : Log) (files : φ) : Traced (Except LogError Unit × Log × φ) :=
  if log.threshold < log.bytesWritten then log.rotate files
  else return (.ok (), log, files)

-- Appends one record and its newline. The newline is attempted, and the size is
-- looked at, also after the record could not be written. If both the write and
-- the rotation fail, the rotation is what gets reported.
def append (log : Log) (files : φ) (record : Bytes) :
    Traced (Except LogError Unit × Log × φ) := do
  match log.file with
  | none => return (.error .unavailable, log, files)
  | some file =>
    let written := writeAll files file record
    if let some error := written.failure then
      Traced.emit (.recordCutShort log.active written.unwritten error)
    let (ended, files) := FileSystem.write written.files file separator
    let separatorLength ←
      match ended with
      | .ok n => pure n
      | .error error => do
        Traced.emit (.separatorLost error)
        pure 0
    let log :=
      { log with bytesWritten := log.bytesWritten + written.accepted + separatorLength }
    let (rotated, log, files) ← log.rotateIfLarge files
    match rotated, written.failure with
    | .error error, _ => return (.error error, log, files)
    | .ok (), some error => return (.error (.write error), log, files)
    | .ok (), none => return (.ok (), log, files)

def close (log : Log) (files : φ) : Except LogError Unit × φ :=
  match log.file with
  | none => (.ok (), files)
  | some file =>
    match FileSystem.flush files file with
    | (.ok (), files) => (.ok (), files)
    | (.error error, files) => (.error (.io .flush log.active error), files)

def describe (log : Log) : String :=
  "AuditLog \x7b active_path: " ++ Text.quote log.active ++
    ", rotated_path: " ++ Text.quote log.rotated ++
    ", bytes_written: " ++ toString log.bytesWritten ++
    ", threshold: " ++ toString log.threshold ++
    ", open: " ++ (if log.file.isSome then "true" else "false") ++ " \x7d"

end Log

end AuditCollector
