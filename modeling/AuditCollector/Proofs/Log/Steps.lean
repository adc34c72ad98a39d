import AuditCollector.Log.Basic

namespace AuditCollector.Log

variable {φ : Type} [FileSystem φ] {log : Log} {files files' files'' : φ} {file : FileHandle}
  {path : String} {error : IoError}

theorem writeAll_of_pos {data : Bytes} {n : Nat} (hdata : data ≠ []) (hn : 0 < n)
    (h : FileSystem.write files file data = (.ok n, files')) :
    writeAll files file data =
      { writeAll files' file (data.drop n) with
        accepted := n + (writeAll files' file (data.drop n)).accepted } := by
  cases n with
  | zero => omega
  | succ n => exact writeAll_of_some hdata h

-- What every single write keeps true, with the count of the bytes accepted so far, is
-- true after all of them.
theorem writeAll_preserves {P : φ → Nat → Prop} {file : FileHandle}
    (haccepted : ∀ {files files' data n count}, FileSystem.write files file data = (.ok n, files') →
      P files count → P files' (count + n))
    (hfailed : ∀ {files files' data error count},
      FileSystem.write files file data = (.error error, files') → P files count → P files' count)
    {files : φ} {count : Nat} (data : Bytes) (h : P files count) :
    P (writeAll files file data).files (count + (writeAll files file data).accepted) := by
  fun_induction writeAll files file data generalizing count with
  | case1 => exact h
  | case2 files data hdata files' hwrite => simpa using haccepted hwrite h
  | case3 files data hdata n files' hwrite hle rest =>
    rename_i ih
    have := ih (haccepted hwrite h)
    rwa [Nat.add_assoc] at this
  | case4 files data hdata files' hwrite hless ih => exact ih (hfailed hwrite h)
  | case5 files data hdata error files' hwrite hother => exact hfailed hwrite h

theorem openFile_of_error (h : FileSystem.openFile files path fileMode = (.error error, files')) :
    (openFile files path).value = (.error error, files') := by
  rw [openFile, h]
  rfl

-- That the mode could not be set is no failure.
theorem openFile_of_ok (h : FileSystem.openFile files path fileMode = (.ok file, files')) :
    (openFile files path).value = (.ok file, (FileSystem.setMode files' file fileMode).2) := by
  rw [openFile, h]
  rcases hmode : FileSystem.setMode files' file fileMode with ⟨_ | _, files''⟩
  · simp only [hmode]; rfl
  · simp only [hmode]; rfl

-- The log after a rotation whose rename worked, with the new file if there is one.
def turnOver (log : Log) (file : Option FileHandle) : Log := { log with file, bytesWritten := 0 }

theorem rotate_of_error
    (h : FileSystem.rename files log.active log.rotated = (.error error, files')) :
    (log.rotate files).value = (.error (.rotationFailed log.rotated error), log, files') := by
  rw [rotate, h]
  rfl

theorem rotate_of_reopened (h : FileSystem.rename files log.active log.rotated = (.ok (), files'))
    (hopened : (openFile files' log.active).value = (.ok file, files'')) :
    (log.rotate files).value = (.ok (), log.turnOver (some file), files'') := by
  rw [rotate, h]
  simp only [Traced.value_bind, hopened]
  rfl

theorem rotate_of_not_reopened
    (h : FileSystem.rename files log.active log.rotated = (.ok (), files'))
    (hopened : (openFile files' log.active).value = (.error error, files'')) :
    (log.rotate files).value =
      (.error (.rotationFailed log.active error), log.turnOver none, files'') := by
  rw [rotate, h]
  simp only [Traced.value_bind, hopened]
  rfl

theorem rotateIfLarge_of_le (h : log.bytesWritten ≤ log.threshold) (files : φ) :
    (log.rotateIfLarge files).value = (.ok (), log, files) := by
  rw [rotateIfLarge, if_neg (Nat.not_lt.mpr h)]
  rfl

theorem rotateIfLarge_of_lt (h : log.threshold < log.bytesWritten) (files : φ) :
    (log.rotateIfLarge files).value = (log.rotate files).value := by
  rw [rotateIfLarge, if_pos h]

-- What a look at the size comes to: no rotation, or one in which the file could not be moved, or was
-- moved and the next one could not be opened, or could.
inductive Rotation where
  | unneeded
  | stuck (error : IoError)
  | lost (error : IoError)
  | fresh (file : FileHandle)

namespace Rotation

def result (log : Log) : Rotation → Except LogError Unit
  | unneeded | fresh _ => .ok ()
  | stuck error => .error (.rotationFailed log.rotated error)
  | lost error => .error (.rotationFailed log.active error)

def after (log : Log) : Rotation → Log
  | unneeded | stuck _ => log
  | lost _ => { log with file := none, bytesWritten := 0 }
  | fresh file => { log with file := some file, bytesWritten := 0 }

end Rotation

-- Which of these it is, and what files it leaves.
inductive Rotates (log : Log) (files : φ) : Rotation → φ → Prop where
  | unneeded (hsmall : log.bytesWritten ≤ log.threshold) : Rotates log files .unneeded files
  | stuck {error : IoError} {files' : φ} (hlarge : log.threshold < log.bytesWritten)
    (hrename : FileSystem.rename files log.active log.rotated = (.error error, files')) :
    Rotates log files (.stuck error) files'
  | lost {error : IoError} {files' files'' : φ} (hlarge : log.threshold < log.bytesWritten)
    (hrename : FileSystem.rename files log.active log.rotated = (.ok (), files'))
    (hopen : (openFile files' log.active).value = (.error error, files'')) :
    Rotates log files (.lost error) files''
  | fresh {file : FileHandle} {files' files'' : φ} (hlarge : log.threshold < log.bytesWritten)
    (hrename : FileSystem.rename files log.active log.rotated = (.ok (), files'))
    (hopen : (openFile files' log.active).value = (.ok file, files'')) :
    Rotates log files (.fresh file) files''

theorem exists_rotates (log : Log) (files : φ) : ∃ rotation files', Rotates log files rotation files' := by
  by_cases hlarge : log.threshold < log.bytesWritten
  · rcases hrename : FileSystem.rename files log.active log.rotated with ⟨error | _, files'⟩
    · exact ⟨_, _, .stuck hlarge hrename⟩
    · rcases hopen : (openFile files' log.active).value with ⟨error | file, files''⟩
      · exact ⟨_, _, .lost hlarge hrename hopen⟩
      · exact ⟨_, _, .fresh hlarge hrename hopen⟩
  · exact ⟨_, _, .unneeded (Nat.not_lt.mp hlarge)⟩

namespace Rotates

variable {rotation : Rotation}

theorem unneeded_iff (h : Rotates log files rotation files') :
    rotation = .unneeded ↔ log.bytesWritten ≤ log.threshold := by
  cases h with
  | unneeded hsmall => exact iff_of_true rfl hsmall
  | stuck hlarge _ | lost hlarge _ _ | fresh hlarge _ _ =>
    exact iff_of_false nofun (Nat.not_le.mpr hlarge)

theorem value_eq (h : Rotates log files rotation files') :
    (log.rotateIfLarge files).value = (rotation.result log, rotation.after log, files') := by
  cases h with
  | unneeded hsmall => exact rotateIfLarge_of_le hsmall files
  | stuck hlarge hrename =>
    rw [rotateIfLarge_of_lt hlarge]
    exact rotate_of_error hrename
  | lost hlarge hrename hopen =>
    rw [rotateIfLarge_of_lt hlarge]
    exact rotate_of_not_reopened hrename hopen
  | fresh hlarge hrename hopen =>
    rw [rotateIfLarge_of_lt hlarge]
    exact rotate_of_reopened hrename hopen

end Rotates

-- What an append reports: the rotation first, then the write of the record.
def report (rotated : Except LogError Unit) (failure : Option IoError) : Except LogError Unit :=
  match rotated, failure with
  | .error error, _ => .error error
  | .ok (), some error => .error (.write error)
  | .ok (), none => .ok ()

-- The log once a record and what was accepted of its newline are counted.
def count (log : Log) (accepted : Nat) : Log :=
  { log with bytesWritten := log.bytesWritten + accepted }

theorem append_of_unavailable (h : log.file = none) (files : φ) (record : Bytes) :
    (log.append files record).value = (.error .unavailable, log, files) := by
  rw [append, h]
  rfl

-- The bytes that a write took, none if it failed.
def taken : Except IoError Nat → Nat
  | .ok n => n
  | .error _ => 0

theorem taken_write_le (files : φ) (file : FileHandle) (data : Bytes) :
    taken (FileSystem.write files file data).1 ≤ data.length := by
  rcases hwrite : FileSystem.write files file data with ⟨error | n, files'⟩
  · exact Nat.zero_le _
  · exact (FileSystem.write_accepted hwrite).1

theorem append_of_file (h : log.file = some file) {record : Bytes}
    {ended : Except IoError Nat}
    (hended : FileSystem.write (writeAll files file record).files file separator = (ended, files')) :
    (log.append files record).value =
      let written := writeAll files file record
      let turned := ((log.count (written.accepted + taken ended)).rotateIfLarge files').value
      (report turned.1 written.failure, turned.2) := by
  obtain ⟨_, bytesWritten, threshold, active, rotated⟩ := log
  cases h
  simp only [append, hended]
  generalize hturned : ((Log.mk (some file) bytesWritten threshold active rotated).count
    ((writeAll files file record).accepted + taken ended)).rotateIfLarge files' = turned
  -- neither the failure of the record nor that of the newline changes what comes after
  cases hfailure : (writeAll files file record).failure <;> cases ended
  all_goals
    simp only [count, taken, Nat.add_zero, ← Nat.add_assoc] at hturned
    simp only [Traced.value_bind, Traced.value_pure, Nat.add_zero, hturned]
    rcases turned with ⟨⟨_ | _, _⟩, _⟩
    · rfl
    · rfl

end AuditCollector.Log
