import AuditCollector.Proofs.Log.Steps
import AuditCollector.Text.Utf8

namespace AuditCollector.Log

variable {φ ψ : Type} [FileSystem φ] [FileSystem ψ]

-- What can be asked of a log while it is open.
inductive Command where
  | append (record : Bytes)
  | appendText (text : String)
  | rotate
deriving DecidableEq, Repr

def perform (log : Log) (files : φ) : Command → Traced (Except LogError Unit × Log × φ)
  | .append record => log.append files record
  | .appendText text => log.append files (Text.utf8 text)
  | .rotate => log.rotate files

-- Does one thing after the other, whatever came of the earlier ones.
def performAll (log : Log) (files : φ) :
    List Command → Traced (List (Except LogError Unit) × Log × φ)
  | [] => return ([], log, files)
  | command :: commands => do
    let (result, log, files) ← log.perform files command
    let (results, log, files) ← log.performAll files commands
    return (result :: results, log, files)

@[simp] theorem performAll_nil (log : Log) (files : φ) :
    (log.performAll files []).value = ([], log, files) := rfl

theorem performAll_append (log : Log) (files : φ) (commands commands' : List Command) :
    (log.performAll files (commands ++ commands')).value =
      let first := (log.performAll files commands).value
      let rest := (first.2.1.performAll first.2.2 commands').value
      (first.1 ++ rest.1, rest.2) := by
  induction commands generalizing log files with
  | nil => rfl
  | cons command commands ih =>
    simp only [List.cons_append, performAll, Traced.value_bind, Traced.value_pure, ih]

-- A map between two kinds of files under which every call does the same. It may forget
-- what the calls do not ask for.
structure Forgets (forget : ψ → φ) : Prop where
  rename : ∀ files old new, FileSystem.rename (forget files) old new =
    Prod.map id forget (FileSystem.rename files old new)
  openFile : ∀ files path mode, FileSystem.openFile (forget files) path mode =
    Prod.map id forget (FileSystem.openFile files path mode)
  setMode : ∀ files file mode, FileSystem.setMode (forget files) file mode =
    Prod.map id forget (FileSystem.setMode files file mode)
  write : ∀ files file data, FileSystem.write (forget files) file data =
    Prod.map id forget (FileSystem.write files file data)

-- The same with what is left of the files after forgetting.
def Written.map (forget : ψ → φ) (written : Written ψ) : Written φ where
  accepted := written.accepted
  unwritten := written.unwritten
  failure := written.failure
  files := forget written.files

def forgetFiles {α : Type} (forget : ψ → φ) (outcome : α × Log × ψ) : α × Log × φ :=
  (outcome.1, outcome.2.1, forget outcome.2.2)

section Forgetting

variable {forget : ψ → φ}

theorem writeAll_forget (hforget : Forgets forget) (files : ψ) (file : FileHandle) (data : Bytes) :
    writeAll (forget files) file data = (writeAll files file data).map forget := by
  have hwrites : ∀ {files files' : ψ} {data : Bytes} {result : Except IoError Nat},
      FileSystem.write files file data = (result, files') →
      FileSystem.write (forget files) file data = (result, forget files') := by
    intro files files' data result h
    rw [hforget.write, h]
    rfl
  fun_induction writeAll files file data with
  | case1 files => exact writeAll_nil _ _
  | case2 files data hdata files' hwrite =>
    exact writeAll_of_nothing hdata (hwrites hwrite)
  | case3 files data hdata n files' hwrite hle rest =>
    rename_i ih
    rw [writeAll_of_some hdata (hwrites hwrite), ih]
    rfl
  | case4 files data hdata files' hwrite hless ih =>
    rw [writeAll_of_error hdata (hwrites hwrite), if_pos rfl, ih]
  | case5 files data hdata error files' hwrite hother =>
    rw [writeAll_of_error hdata (hwrites hwrite), if_neg hother]
    rfl

theorem openFile_forget (hforget : Forgets forget) (files : ψ) (path : String) :
    (openFile (forget files) path).value = Prod.map id forget (openFile files path).value := by
  have hopen := hforget.openFile files path fileMode
  rcases h : FileSystem.openFile files path fileMode with ⟨_ | file, files'⟩
  · rw [h] at hopen
    rw [openFile_of_error hopen, openFile_of_error h]
    rfl
  · have hopen' : FileSystem.openFile (forget files) path fileMode = (.ok file, forget files') := by
      rw [hopen, h]
      rfl
    rw [openFile_of_ok hopen', openFile_of_ok h, hforget.setMode]
    rfl

theorem rotate_forget (hforget : Forgets forget) (log : Log) (files : ψ) :
    (log.rotate (forget files)).value = forgetFiles forget (log.rotate files).value := by
  have hrename := hforget.rename files log.active log.rotated
  rcases h : FileSystem.rename files log.active log.rotated with ⟨_ | _, files'⟩
  · rw [h] at hrename
    rw [rotate_of_error hrename, rotate_of_error h]
    rfl
  · rw [h] at hrename
    have hopen := openFile_forget hforget files' log.active
    rcases h' : (openFile files' log.active).value with ⟨_ | file, files''⟩
    · rw [h'] at hopen
      rw [rotate_of_not_reopened hrename hopen, rotate_of_not_reopened h h']
      rfl
    · rw [h'] at hopen
      rw [rotate_of_reopened hrename hopen, rotate_of_reopened h h']
      rfl

theorem Rotates.of_forgets {log : Log} {files files' : ψ} {rotation : Rotation} (hforget : Forgets forget)
    (h : Rotates log files rotation files') : Rotates log (forget files) rotation (forget files') := by
  have hrenamed : ∀ {result between}, FileSystem.rename files log.active log.rotated = (result, between) →
      FileSystem.rename (forget files) log.active log.rotated = (result, forget between) := by
    intro result between hrename
    rw [hforget.rename, hrename]
    rfl
  have hopened : ∀ {between result}, (openFile between log.active).value = (result, files') →
      (openFile (forget between) log.active).value = (result, forget files') := by
    intro between result hopen
    rw [openFile_forget hforget, hopen]
    rfl
  cases h with
  | unneeded hsmall => exact .unneeded hsmall
  | stuck hlarge hrename => exact .stuck hlarge (hrenamed hrename)
  | lost hlarge hrename hopen => exact .lost hlarge (hrenamed hrename) (hopened hopen)
  | fresh hlarge hrename hopen => exact .fresh hlarge (hrenamed hrename) (hopened hopen)

theorem rotateIfLarge_forget (hforget : Forgets forget) (log : Log) (files : ψ) :
    (log.rotateIfLarge (forget files)).value =
      forgetFiles forget (log.rotateIfLarge files).value := by
  unfold rotateIfLarge
  split
  · exact rotate_forget hforget log files
  · rfl

theorem append_forget (hforget : Forgets forget) (log : Log) (files : ψ) (record : Bytes) :
    (log.append (forget files) record).value =
      forgetFiles forget (log.append files record).value := by
  cases hfile : log.file with
  | none =>
    rw [append_of_unavailable hfile, append_of_unavailable hfile]
    rfl
  | some file =>
    have hwritten := writeAll_forget hforget files file record
    rcases h : FileSystem.write (writeAll files file record).files file separator
      with ⟨ended, files'⟩
    have hended : FileSystem.write (writeAll (forget files) file record).files file separator =
        (ended, forget files') := by
      rw [hwritten, Written.map, hforget.write, h]
      rfl
    rw [append_of_file hfile hended, append_of_file hfile h, hwritten]
    simp only [Written.map, rotateIfLarge_forget hforget]
    rfl

theorem perform_forget (hforget : Forgets forget) (log : Log) (files : ψ) (command : Command) :
    (log.perform (forget files) command).value =
      forgetFiles forget (log.perform files command).value := by
  cases command with
  | append record => exact append_forget hforget log files record
  | appendText text => exact append_forget hforget log files (Text.utf8 text)
  | rotate => exact rotate_forget hforget log files

-- Whatever is asked of the log, it goes the same way over the files that forget.
theorem performAll_forget (hforget : Forgets forget) (log : Log) (files : ψ)
    (commands : List Command) :
    (log.performAll (forget files) commands).value =
      forgetFiles forget (log.performAll files commands).value := by
  induction commands generalizing log files with
  | nil => rfl
  | cons command commands ih =>
    simp only [performAll, Traced.value_bind, Traced.value_pure, perform_forget hforget,
      forgetFiles, ih]

end Forgetting

end AuditCollector.Log
