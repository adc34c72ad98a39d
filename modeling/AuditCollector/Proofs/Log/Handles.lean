import AuditCollector.Proofs.Log.Receipts

namespace AuditCollector

-- What is done with files, and what comes of it.
inductive FileOperation where
  | size (path : String) (result : Except IoError Nat)
  | rename (old new : String) (result : Except IoError Unit)
  | openFile (path : String) (mode : Nat) (result : Except IoError FileHandle)
  | setMode (file : FileHandle) (mode : Nat) (result : Except IoError Unit)
  | write (file : FileHandle) (data : Bytes) (result : Except IoError Nat)
  | flush (file : FileHandle) (result : Except IoError Unit)
  | readFile (path : String) (result : Except IoError Bytes)

namespace FileOperation

def IsFlush : FileOperation → Prop
  | flush _ _ => True
  | _ => False

-- The file that a log has open: the last one that was opened, until it is moved away.
def follow (open? : Option FileHandle) : FileOperation → Option FileHandle
  | openFile _ _ result => result.toOption
  | rename _ _ (.ok ()) => none
  | _ => open?

def handle? (operations : List FileOperation) : Option FileHandle := operations.foldl follow none

theorem handle?_concat (operations : List FileOperation) (operation : FileOperation) :
    handle? (operations ++ [operation]) = follow (handle? operations) operation :=
  List.foldl_append

end FileOperation

-- Files of any kind, with the operations that were done on them, the earliest first.
structure RecordedFiles (φ : Type) where
  files : φ
  operations : List FileOperation := []

namespace RecordedFiles

open FileOperation

variable {φ : Type}

def record {α : Type} (recorded : RecordedFiles φ) (result : α × φ) (operation : α → FileOperation) :
    α × RecordedFiles φ :=
  (result.1,
    { files := result.2, operations := recorded.operations ++ [operation result.1] })

theorem record_eq {α : Type} {recorded recorded' : RecordedFiles φ} {result : α × φ}
    {operation : α → FileOperation} {a : α}
    (h : recorded.record result operation = (a, recorded')) : result = (a, recorded'.files) := by
  cases h
  rfl

instance [FileSystem φ] : FileSystem (RecordedFiles φ) where
  size recorded path := recorded.record (FileSystem.size recorded.files path) (.size path)
  rename recorded old new :=
    recorded.record (FileSystem.rename recorded.files old new) (.rename old new)
  openFile recorded path mode :=
    recorded.record (FileSystem.openFile recorded.files path mode) (.openFile path mode)
  setMode recorded file mode :=
    recorded.record (FileSystem.setMode recorded.files file mode) (.setMode file mode)
  write recorded file data :=
    recorded.record (FileSystem.write recorded.files file data) (.write file data)
  flush recorded file := recorded.record (FileSystem.flush recorded.files file) (.flush file)
  readFile recorded path :=
    recorded.record (FileSystem.readFile recorded.files path) (.readFile path)
  remaining recorded := FileSystem.remaining recorded.files
  write_accepted h := FileSystem.write_accepted (record_eq h)
  write_interrupted h := FileSystem.write_interrupted (record_eq h)

-- Since these operations nothing was flushed, and the file is the one that is open.
structure Tracks (recorded : RecordedFiles φ) (earlier : List FileOperation)
    (open? : Option FileHandle) : Prop where
  handle : handle? recorded.operations = open?
  unflushed : ∃ later, recorded.operations = earlier ++ later ∧
    ∀ operation ∈ later, ¬operation.IsFlush

variable {recorded recorded' : RecordedFiles φ} {earlier : List FileOperation}
  {open? : Option FileHandle}

theorem Tracks.start (h : handle? recorded.operations = open?) :
    recorded.Tracks recorded.operations open? :=
  ⟨h, [], (List.append_nil _).symm, nofun⟩

theorem Tracks.next {α : Type} {result : α × φ} {operation : α → FileOperation} {a : α}
    (h : recorded.Tracks earlier open?) (hcall : recorded.record result operation = (a, recorded'))
    (hflush : ¬(operation a).IsFlush) : recorded'.Tracks earlier (follow open? (operation a)) := by
  obtain ⟨rfl, rfl⟩ := Prod.mk.inj hcall
  obtain ⟨later, hlater, hall⟩ := h.unflushed
  refine ⟨?_, later ++ [operation result.1], ?_, ?_⟩
  · rw [handle?_concat, h.handle]
  · rw [hlater, List.append_assoc]
  · intro operation' hmem
    rcases List.mem_append.mp hmem with hmem | hmem
    · exact hall operation' hmem
    · rw [List.mem_singleton.mp hmem]
      exact hflush

-- An operation is recorded with what came of it.
theorem operations_of_record {α : Type} {result : α × φ} {operation : α → FileOperation} {a : α}
    (h : recorded.record result operation = (a, recorded')) :
    recorded'.operations = recorded.operations ++ [operation a] := by
  cases h
  rfl

end RecordedFiles

namespace Log

open RecordedFiles FileOperation

-- How room is made for a log: there is no file yet, an empty one, or it is moved aside.
inductive Clearing (active rotated : String) : List FileOperation → Prop where
  | missing : Clearing active rotated [.size active (.error .notFound)]
  | empty : Clearing active rotated [.size active (.ok 0)]
  | moved {n : Nat} :
    Clearing active rotated [.size active (.ok (n + 1)), .rename active rotated (.ok ())]

-- How a log is started, and what comes of it. The mode of the new file plays no part.
inductive Opening (active rotated : String) :
    List FileOperation → Except LogError FileHandle → Prop where
  | unknown {error : IoError} (hknown : error ≠ .notFound) :
    Opening active rotated [.size active (.error error)] (.error (.io .stat active error))
  | stuck {n : Nat} {error : IoError} :
    Opening active rotated
      [.size active (.ok (n + 1)), .rename active rotated (.error error)]
      (.error (.io .rename active error))
  | unopened {cleared : List FileOperation} {error : IoError}
    (hcleared : Clearing active rotated cleared) :
    Opening active rotated (cleared ++ [.openFile active fileMode (.error error)])
      (.error (.io .openFile active error))
  | opened {cleared : List FileOperation} {file : FileHandle} {set : Except IoError Unit}
    (hcleared : Clearing active rotated cleared) :
    Opening active rotated
      (cleared ++ [.openFile active fileMode (.ok file), .setMode file fileMode set]) (.ok file)

-- How a log is closed, and what comes of it: the file that is open is flushed, if there is one.
inductive Closing (active : String) :
    Option FileHandle → List FileOperation → Except LogError Unit → Prop where
  | absent : Closing active none [] (.ok ())
  | flushed {file : FileHandle} : Closing active (some file) [.flush file (.ok ())] (.ok ())
  | unflushed {file : FileHandle} {error : IoError} :
    Closing active (some file) [.flush file (.error error)] (.error (.io .flush active error))

-- A log that could be started has the file open that was opened for it.
theorem Opening.handle?_append {active rotated : String} {opening : List FileOperation}
    {file : FileHandle} (h : Opening active rotated opening (.ok file))
    (earlier : List FileOperation) : handle? (earlier ++ opening) = some file := by
  cases h with
  | opened =>
    rw [handle?, List.foldl_append, List.foldl_append]
    rfl

variable {φ : Type} [FileSystem φ] {recorded recorded' : RecordedFiles φ} {log log' : Log}
  {earlier : List FileOperation} {open? : Option FileHandle}

section Start

variable {active rotated : String} {threshold : Nat} {result : Except LogError Log}

theorem create_opening {before : List FileOperation} (hbefore : Clearing active rotated before)
    (hcalls : recorded.operations = earlier ++ before)
    (hcreated : (create recorded active rotated threshold).value = (result, recorded')) :
    ∃ opening opened, recorded'.operations = earlier ++ opening ∧
      Opening active rotated opening opened ∧ result.map Log.file = opened.map some ∧
      ∀ log, result = .ok log → log.active = active := by
  simp only [create, Traced.value_bind] at hcreated
  rcases hopen : FileSystem.openFile recorded active fileMode with ⟨error | file, between⟩
  · have hopened := operations_of_record hopen
    rw [openFile_of_error hopen] at hcreated
    cases hcreated
    refine ⟨_, _, ?_, .unopened hbefore, rfl, nofun⟩
    rw [hopened, hcalls, List.append_assoc]
  · have hopened := operations_of_record hopen
    rw [openFile_of_ok hopen] at hcreated
    rcases hmode : FileSystem.setMode between file fileMode with ⟨set, after⟩
    have hset := operations_of_record hmode
    rw [hmode] at hcreated
    cases hcreated
    refine ⟨before ++ [.openFile active fileMode (.ok file), .setMode file fileMode set], _, ?_,
      .opened hbefore, rfl, ?_⟩
    · rw [hset, hopened, hcalls, List.append_assoc, List.append_assoc]
      rfl
    · rintro log hlog
      cases hlog
      rfl

-- What starting a log does and comes to.
theorem start_opening
    (hstarted : (start recorded active rotated threshold).value = (result, recorded')) :
    ∃ opening opened, recorded'.operations = recorded.operations ++ opening ∧
      Opening active rotated opening opened ∧ result.map Log.file = opened.map some ∧
      ∀ log, result = .ok log → log.active = active := by
  unfold start at hstarted
  rcases hsize : FileSystem.size recorded active with ⟨error | _ | n, between⟩
  · have hsized := operations_of_record hsize
    simp only [hsize] at hstarted
    split at hstarted
    · rename_i hmissing
      rw [hmissing] at hsized
      exact create_opening .missing hsized hstarted
    · rename_i hknown
      cases hstarted
      exact ⟨_, _, hsized, .unknown hknown, rfl, nofun⟩
  · simp only [hsize] at hstarted
    exact create_opening .empty (operations_of_record hsize) hstarted
  · have hsized := operations_of_record hsize
    simp only [hsize] at hstarted
    rcases hrename : FileSystem.rename between active rotated with ⟨error | _, after⟩
    · have hrenamed := operations_of_record hrename
      rw [hsized, List.append_assoc] at hrenamed
      rw [hrename] at hstarted
      cases hstarted
      exact ⟨_, _, hrenamed, .stuck, rfl, nofun⟩
    · have hrenamed := operations_of_record hrename
      rw [hsized, List.append_assoc] at hrenamed
      rw [hrename] at hstarted
      exact create_opening .moved hrenamed hstarted

end Start

-- Whether a file could be opened or not, it is the one that is open then. Its mode plays no part.
theorem openFile_tracks {path : String} {result : Except IoError FileHandle}
    (h : recorded.Tracks earlier open?)
    (hopen : (openFile recorded path).value = (result, recorded')) :
    recorded'.Tracks earlier result.toOption := by
  rcases hcall : FileSystem.openFile recorded path fileMode with ⟨error | file, between⟩
  · rw [openFile_of_error hcall] at hopen
    cases hopen
    exact h.next hcall nofun
  · rw [openFile_of_ok hcall] at hopen
    rcases hmode : FileSystem.setMode between file fileMode with ⟨set, after⟩
    rw [hmode] at hopen
    cases hopen
    have hopened : between.Tracks earlier (some file) := h.next hcall nofun
    exact hopened.next hmode nofun

theorem write_tracks {file : FileHandle} {data : Bytes} {result : Except IoError Nat}
    (h : recorded.Tracks earlier open?)
    (hwrite : FileSystem.write recorded file data = (result, recorded')) :
    recorded'.Tracks earlier open? :=
  h.next hwrite nofun

theorem Turned.tracks {turned : Except LogError Unit × Log × RecordedFiles φ}
    (hturned : Turned log recorded turned) (h : recorded.Tracks earlier log.file) :
    turned.2.2.Tracks earlier turned.2.1.file := by
  cases hturned with
  | small => exact h
  | stuck hrename => exact h.next hrename nofun
  | lost hrename hopen => exact openFile_tracks (h.next hrename nofun) hopen
  | fresh hrename hopen => exact openFile_tracks (h.next hrename nofun) hopen

-- An append may open another file, and flushes none.
theorem append_tracks (h : recorded.Tracks earlier log.file) (record : Bytes) :
    (log.append recorded record).value.2.2.Tracks earlier
      (log.append recorded record).value.2.1.file := by
  cases hfile : log.file with
  | none =>
    rw [append_of_unavailable hfile]
    exact h
  | some file =>
    have hwritten : (writeAll recorded file record).files.Tracks earlier log.file :=
      @writeAll_preserves _ _ (fun recorded _ => recorded.Tracks earlier log.file) file
        (fun hwrite htracks => write_tracks htracks hwrite)
        (fun hwrite htracks => write_tracks htracks hwrite) recorded 0 record h
    rw [(receipt_of_file hfile recorded record).2]
    exact (rotateIfLarge_turned (log.count _) _).tracks (write_tracks hwritten rfl)

theorem Turned.active_eq {files : φ} {turned : Except LogError Unit × Log × φ}
    (hturned : Turned log files turned) : turned.2.1.active = log.active := by
  cases hturned with
  | small => rfl
  | stuck => rfl
  | lost => rfl
  | fresh => rfl

-- Nor does it give the log another path.
theorem active_append (log : Log) (files : φ) (record : Bytes) :
    (log.append files record).value.2.1.active = log.active := by
  cases hfile : log.file with
  | none => rw [append_of_unavailable hfile]
  | some file =>
    rw [(receipt_of_file hfile files record).2]
    exact (rotateIfLarge_turned (log.count _) _).active_eq

theorem close_closing (log : Log) (recorded : RecordedFiles φ) :
    ∃ closing, (log.close recorded).2.operations = recorded.operations ++ closing ∧
      Closing log.active log.file closing (log.close recorded).1 := by
  unfold close
  cases log.file with
  | none => exact ⟨[], (List.append_nil _).symm, .absent⟩
  | some file =>
    rcases hflush : FileSystem.flush recorded file with ⟨error | _, after⟩
    · simp only [hflush]
      exact ⟨_, operations_of_record hflush, .unflushed⟩
    · simp only [hflush]
      exact ⟨_, operations_of_record hflush, .flushed⟩

end Log

end AuditCollector
