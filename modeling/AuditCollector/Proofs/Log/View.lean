import AuditCollector.Proofs.Log.Handles

namespace AuditCollector

-- Files seen as others: what is done with the ones comes to the same as with the others.
structure FileSystem.View (φ ψ : Type) [FileSystem φ] [FileSystem ψ] where
  see : φ → ψ
  size (f : φ) (path : String) :
    FileSystem.size (see f) path = (FileSystem.size f path).map id see
  rename (f : φ) (old new : String) :
    FileSystem.rename (see f) old new = (FileSystem.rename f old new).map id see
  openFile (f : φ) (path : String) (mode : Nat) :
    FileSystem.openFile (see f) path mode = (FileSystem.openFile f path mode).map id see
  setMode (f : φ) (file : FileHandle) (mode : Nat) :
    FileSystem.setMode (see f) file mode = (FileSystem.setMode f file mode).map id see
  write (f : φ) (file : FileHandle) (data : Bytes) :
    FileSystem.write (see f) file data = (FileSystem.write f file data).map id see
  flush (f : φ) (file : FileHandle) :
    FileSystem.flush (see f) file = (FileSystem.flush f file).map id see
  readFile (f : φ) (path : String) :
    FileSystem.readFile (see f) path = (FileSystem.readFile f path).map id see

-- Being recorded makes no difference.
def RecordedFiles.view (φ : Type) [FileSystem φ] : FileSystem.View (RecordedFiles φ) φ where
  see := RecordedFiles.files
  size _ _ := rfl
  rename _ _ _ := rfl
  openFile _ _ _ := rfl
  setMode _ _ _ := rfl
  write _ _ _ := rfl
  flush _ _ := rfl
  readFile _ _ := rfl

variable {φ ψ : Type} [FileSystem φ] [FileSystem ψ] (view : FileSystem.View φ ψ)

def Log.Written.seen (written : Log.Written φ) : Log.Written ψ :=
  ⟨written.accepted, written.unwritten, written.failure, view.see written.files⟩

namespace FileSystem.View

theorem log_openFile (f : φ) (path : String) :
    Log.openFile (view.see f) path =
      (fun opened => (opened.1, view.see opened.2)) <$> Log.openFile f path := by
  unfold Log.openFile
  rw [view.openFile]
  rcases FileSystem.openFile f path Log.fileMode with ⟨error | file, f⟩
  · simp
  · simp only [Prod.map_apply, id_eq, view.setMode]
    rcases FileSystem.setMode f file Log.fileMode with ⟨error | _, f⟩
    · simp
    · simp

theorem create (f : φ) (active rotated : String) (threshold : Nat) :
    Log.create (view.see f) active rotated threshold =
      (fun created => (created.1, view.see created.2)) <$>
        Log.create f active rotated threshold := by
  unfold Log.create
  rw [view.log_openFile, bind_map_left, map_bind]
  refine bind_congr fun (opened, f) => ?_
  rcases opened with error | file
  · simp
  · simp

theorem start (f : φ) (active rotated : String) (threshold : Nat) :
    Log.start (view.see f) active rotated threshold =
      (fun started => (started.1, view.see started.2)) <$>
        Log.start f active rotated threshold := by
  unfold Log.start
  rw [view.size]
  rcases FileSystem.size f active with ⟨error | _ | n, f⟩
  · simp only [Prod.map_apply, id_eq]
    split
    · exact view.create f active rotated threshold
    · simp
  · exact view.create f active rotated threshold
  · simp only [Prod.map_apply, id_eq, view.rename]
    rcases FileSystem.rename f active rotated with ⟨error | _, f⟩
    · simp
    · exact view.create f active rotated threshold

theorem writeAll (f : φ) (file : FileHandle) (data : Bytes) :
    Log.writeAll (view.see f) file data = (Log.writeAll f file data).seen view := by
  fun_induction Log.writeAll f file data with
  | case1 f => exact Log.writeAll_nil (view.see f) file
  | case2 f data hdata f' hwrite =>
    exact Log.writeAll_of_nothing hdata (by rw [view.write, hwrite]; rfl)
  | case3 f data hdata n f' hwrite hle rest ih =>
    rw [Log.writeAll_of_some hdata (by rw [view.write, hwrite]; rfl), ih]
    rfl
  | case4 f data hdata f' hwrite hless ih =>
    rw [Log.writeAll_of_error hdata (by rw [view.write, hwrite]; rfl), if_pos rfl, ih]
  | case5 f data hdata error f' hwrite hother =>
    rw [Log.writeAll_of_error hdata (by rw [view.write, hwrite]; rfl), if_neg hother]
    rfl

variable (log : Log)

theorem rotate (f : φ) :
    log.rotate (view.see f) =
      (fun rotated => (rotated.1, rotated.2.1, view.see rotated.2.2)) <$> log.rotate f := by
  unfold Log.rotate
  rw [view.rename]
  rcases FileSystem.rename f log.active log.rotated with ⟨error | _, f⟩
  · simp
  · simp only [Prod.map_apply, id_eq]
    rw [view.log_openFile, bind_map_left, map_bind]
    refine bind_congr fun (opened, f) => ?_
    rcases opened with error | file
    · simp
    · simp

theorem rotateIfLarge (f : φ) :
    log.rotateIfLarge (view.see f) =
      (fun rotated => (rotated.1, rotated.2.1, view.see rotated.2.2)) <$> log.rotateIfLarge f := by
  unfold Log.rotateIfLarge
  split
  · exact view.rotate log f
  · simp

theorem append (f : φ) (record : Bytes) :
    log.append (view.see f) record =
      (fun appended => (appended.1, appended.2.1, view.see appended.2.2)) <$>
        log.append f record := by
  unfold Log.append
  cases log.file with
  | none => simp
  | some file =>
    simp only [view.writeAll, Log.Written.seen, view.write]
    rcases Log.writeAll f file record with ⟨accepted, unwritten, failure, f⟩
    simp only
    rcases FileSystem.write f file Log.separator with ⟨ended, f⟩
    rcases failure with _ | failure
    all_goals rcases ended with error | n
    -- what follows is the same, whether the record or the separator was lost
    all_goals
      simp only [Prod.map_apply, id_eq, view.rotateIfLarge, bind_map_left, map_bind]
      repeat refine bind_congr fun _ => ?_
      rename_i rotated
      rcases rotated with ⟨error | _, log, f⟩
      · simp
      · simp

theorem close (f : φ) : log.close (view.see f) = (log.close f).map id view.see := by
  unfold Log.close
  cases log.file with
  | none => rfl
  | some file =>
    simp only [view.flush]
    rcases FileSystem.flush f file with ⟨error | _, f⟩
    · rfl
    · rfl

end FileSystem.View

end AuditCollector
