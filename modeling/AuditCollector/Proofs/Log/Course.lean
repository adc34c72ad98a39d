import AuditCollector.Proofs.Log.Journal
import AuditCollector.Proofs.Log.Receipts

namespace AuditCollector.Log

-- Why a write is the last one of its record: nothing was accepted, or it failed and was not merely
-- interrupted.
def FileCall.refusal? : FileCall → Option IoError
  | .write _ _ (.ok 0) => some .writeZero
  | .write _ _ (.error error) => if error = .os 4 then none else some error
  | _ => none

open FileCall

theorem FileCall.accepted_write (file : FileHandle) (data : Bytes) (outcome : Except IoError Nat) :
    (FileCall.write file data outcome).accepted = data.take (taken outcome) := by
  cases outcome with
  | ok n => rfl
  | error error => rfl

theorem FileCall.accepted_of_refusal {call : FileCall} {error : IoError}
    (h : call.refusal? = some error) : call.accepted = [] := by
  cases call with
  | write file data outcome =>
    rcases outcome with _ | _ | n
    · rfl
    · rfl
    · cases h
  | rename old new result => rfl
  | openFile path result => rfl

-- The writes of a record, the earliest first: each is of what is not yet accepted, and they end
-- where nothing is left or one is refused.
inductive Writes (file : FileHandle) : Bytes → List FileCall → Prop where
  | done : Writes file [] []
  | goesOn {data : Bytes} {outcome : Except IoError Nat} {writes : List FileCall} (hdata : data ≠ [])
    (hgoes : (FileCall.write file data outcome).refusal? = none)
    (hrest : Writes file (data.drop (taken outcome)) writes) :
    Writes file data (.write file data outcome :: writes)
  | refused {data : Bytes} {outcome : Except IoError Nat} {error : IoError} (hdata : data ≠ [])
    (hrefused : (FileCall.write file data outcome).refusal? = some error) :
    Writes file data [.write file data outcome]

namespace Writes

variable {file : FileHandle} {data : Bytes} {writes : List FileCall}

theorem accepted_isPrefix (h : Writes file data writes) : writes.flatMap accepted <+: data := by
  induction h with
  | done => exact List.prefix_rfl
  | @goesOn data outcome writes hdata hgoes hrest ih =>
    rw [List.flatMap_cons, accepted_write]
    have happend := (List.prefix_append_right_inj (data.take (taken outcome))).mpr ih
    rwa [List.take_append_drop] at happend
  | refused hdata hrefused =>
    rw [List.flatMap_singleton, accepted_of_refusal hrefused]
    exact List.nil_prefix

-- Something is missing exactly if a write was refused.
theorem accepted_eq_iff (h : Writes file data writes) :
    writes.flatMap accepted = data ↔ writes.findSome? refusal? = none := by
  induction h with
  | done => exact iff_of_true rfl rfl
  | @goesOn data outcome writes hdata hgoes hrest ih =>
    have hsplit : data.take (taken outcome) ++ data.drop (taken outcome) = data :=
      List.take_append_drop (taken outcome) data
    rw [List.flatMap_cons, accepted_write, List.findSome?_cons, hgoes, ← ih]
    exact ⟨fun h => List.append_cancel_left (h.trans hsplit.symm), fun h => by rw [h, hsplit]⟩
  | refused hdata hrefused =>
    rw [List.flatMap_singleton, accepted_of_refusal hrefused, List.findSome?_singleton, hrefused]
    exact iff_of_false hdata.symm nofun

end Writes

variable {φ : Type} [FileSystem φ] {log : Log} {files files' : φ} {file : FileHandle}

-- In the journal a record is such writes, and they say how it ended.
theorem writeAll_writes (files : φ) (earlier : List FileCall) (file : FileHandle) (data : Bytes) :
    ∃ writes, Writes file data writes ∧
      writeAll (⟨files, earlier⟩ : Journaled φ) file data =
        { writeAll files file data with
          files := ⟨(writeAll files file data).files, writes.reverse ++ earlier⟩ } ∧
      (writeAll files file data).accepted = (writes.flatMap accepted).length ∧
      (writeAll files file data).failure = writes.findSome? refusal? := by
  fun_induction writeAll files file data generalizing earlier with
  | case1 files => exact ⟨[], .done, writeAll_nil _ _, rfl, rfl⟩
  | case2 files data hdata files' hwrite =>
    have hjournaled := @Journaled.write_eq _ _ ⟨files, earlier⟩ _ _ _ _ hwrite
    exact ⟨_, .refused hdata rfl, writeAll_of_nothing hdata hjournaled, rfl, rfl⟩
  | case3 files data hdata n files' hwrite hle rest ih =>
    have hjournaled := @Journaled.write_eq _ _ ⟨files, earlier⟩ _ _ _ _ hwrite
    obtain ⟨writes, hwrites, hrest, haccepted, hfailure⟩ :=
      ih (.write file data (.ok (n + 1)) :: earlier)
    have hgoes : (FileCall.write file data (.ok (n + 1))).refusal? = none := rfl
    refine ⟨_, .goesOn hdata hgoes hwrites, ?_, ?_, hfailure⟩
    · rw [writeAll_of_some hdata hjournaled, hrest, List.reverse_cons, List.append_assoc]
      rfl
    · have htaken : (data.take (taken (.ok (n + 1)))).length = n + 1 := List.length_take_of_le hle.1
      rw [List.flatMap_cons, List.length_append, ← haccepted, accepted_write, htaken]
  | case4 files data hdata files' hwrite hless ih =>
    have hjournaled := @Journaled.write_eq _ _ ⟨files, earlier⟩ _ _ _ _ hwrite
    obtain ⟨writes, hwrites, hrest, haccepted, hfailure⟩ :=
      ih (.write file data (.error .interrupted) :: earlier)
    have hgoes : (FileCall.write file data (.error .interrupted)).refusal? = none := rfl
    refine ⟨_, .goesOn hdata hgoes hwrites, ?_, haccepted, hfailure⟩
    rw [writeAll_of_error hdata hjournaled, if_pos rfl, hrest, List.reverse_cons, List.append_assoc]
    rfl
  | case5 files data hdata error files' hwrite hother =>
    have hjournaled := @Journaled.write_eq _ _ ⟨files, earlier⟩ _ _ _ _ hwrite
    have hrefused : (FileCall.write file data (.error error)).refusal? = some error := if_neg hother
    refine ⟨_, .refused hdata hrefused, ?_, rfl, ?_⟩
    · rw [writeAll_of_error hdata hjournaled, if_neg hother]
      rfl
    · rw [List.findSome?_singleton, hrefused]

-- What one append does: the writes of the record, the one write of the newline, and the look at the
-- size.
structure Course where
  writes : List FileCall
  ended : Except IoError Nat
  rotation : Rotation

namespace Course

variable (course : Course)

-- What is accepted of the record and of the newline.
def written : Bytes := course.writes.flatMap FileCall.accepted

def terminator : Bytes := separator.take (taken course.ended)

def failure? : Option IoError := course.writes.findSome? FileCall.refusal?

theorem terminator_cases (hle : taken course.ended ≤ 1) :
    course.ended = .ok 1 ∧ course.terminator = [10] ∨
      course.ended ≠ .ok 1 ∧ course.terminator = [] := by
  obtain ⟨writes, ended, rotation⟩ := course
  rcases ended with error | _ | _ | n
  · exact .inr ⟨nofun, rfl⟩
  · exact .inr ⟨nofun, rfl⟩
  · exact .inl ⟨rfl, rfl⟩
  · exact absurd hle (by simp [taken])

-- The log when its size is looked at.
def counted (log : Log) : Log :=
  { log with bytesWritten := log.bytesWritten + course.written.length + course.terminator.length }

def calls (log : Log) (file : FileHandle) : List FileCall :=
  course.writes ++ .write file [10] course.ended :: course.rotation.calls log

def after (log : Log) : Log := course.rotation.after (course.counted log)

-- The rotation is what is reported, then the write of the record.
def result (log : Log) : Except LogError Unit :=
  match course.rotation.result log, course.failure? with
  | .error error, _ => .error error
  | .ok (), some error => .error (.write error)
  | .ok (), none => .ok ()

-- What the two files hold then.
def leaves (held : Held) : Held :=
  course.rotation.leaves (held.plus (course.written ++ course.terminator))

end Course

-- Whatever becomes of the single calls, an append to a log that has a file writes the start of the
-- record, all of it unless a write is refused, and then the newline in one write, whatever came before.
-- Both are counted, and then the log is rotated exactly if it is larger than its threshold. What is
-- reported is the failure of the rotation, else that of the record. On a disk the files hold just that.
theorem append_course (hfile : log.file = some file) (files : φ) (record : Bytes) :
    ∃ (course : Course) (files' : φ),
      (log.append files record).value = (course.result log, course.after log, files') ∧
      (log.append (⟨files, []⟩ : Journaled φ) record).value =
        (course.result log, course.after log, ⟨files', (course.calls log file).reverse⟩) ∧
      Writes file record course.writes ∧
      course.written <+: record ∧ (course.written = record ↔ course.failure? = none) ∧
      (course.ended = .ok 1 ∧ course.terminator = [10] ∨
        course.ended ≠ .ok 1 ∧ course.terminator = []) ∧
      (course.rotation = .unneeded ↔
        log.bytesWritten + course.written.length + course.terminator.length ≤ log.threshold) ∧
      ∀ see : φ → FaultyDisk, Forgets see → ∀ activeAt rotatedAt current previous,
        (see files).disk.Serves log.active log.rotated activeAt rotatedAt file current previous →
        (see files').disk.held activeAt rotatedAt = course.leaves ⟨some current, previous⟩ := by
  obtain ⟨writes, hwrites, hjournaled, haccepted, hfailure⟩ := writeAll_writes files [] file record
  rcases hended : FileSystem.write (writeAll files file record).files file separator
    with ⟨ended, between⟩
  obtain ⟨rotation, files', hrotates⟩ :=
    exists_rotates (log.count ((writeAll files file record).accepted + taken ended)) between
  let course : Course := ⟨writes, ended, rotation⟩
  have hle : taken ended ≤ 1 := by
    have hle := taken_write_le (writeAll files file record).files file separator
    rwa [hended] at hle
  have hcounted : log.count ((writeAll files file record).accepted + taken ended) =
      course.counted log := by
    have hterminator : course.terminator.length = taken ended := List.length_take_of_le hle
    rw [haccepted, ← hterminator, count, ← Nat.add_assoc]
    rfl
  rw [hcounted] at hrotates
  refine ⟨course, files', ?_, ?_, hwrites, hwrites.accepted_isPrefix, hwrites.accepted_eq_iff,
    course.terminator_cases hle, hrotates.unneeded_iff, ?_⟩
  · rw [append_of_file hfile hended]
    simp only [hcounted, hrotates.value_eq, hfailure]
    rfl
  · have hended' : FileSystem.write (writeAll (⟨files, []⟩ : Journaled φ) file record).files file
        separator = (ended, ⟨between, .write file [10] ended :: (writes.reverse ++ [])⟩) := by
      rw [hjournaled]
      exact Journaled.write_eq hended
    have hcalls : (course.calls log file).reverse =
        (rotation.calls log).reverse ++ .write file [10] ended :: (writes.reverse ++ []) := by
      simp [Course.calls, course]
    rw [append_of_file hfile hended', hjournaled]
    simp only [hcounted, (hrotates.journaled _).value_eq, hfailure]
    rw [hcalls]
    rfl
  · intro see hsee activeAt rotatedAt current previous hserves
    have hended' := write_serves separator (writeAll_serves record hserves)
    have hwritten : record.take (writeAll files file record).accepted = course.written := by
      rw [haccepted]
      exact (List.prefix_iff_eq_take.mp hwrites.accepted_isPrefix).symm
    rw [writeAll_forget hsee, Written.map, hsee.write, hended, hwritten] at hended'
    rw [((hrotates.of_forgets hsee).keeps hfile hended').2, List.append_assoc]
    rfl

-- The disk is full after two of three bytes, and the log is too large for its threshold all the same.
-- It is moved, and then there is no descriptor left for the next file.
theorem append_course_of_full_disk :
    let faulty : FaultyDisk :=
      { disk := .empty, writes := [.accept 2, .fail (.os 4), .fail (.os 28)], opens := [none, some (.os 24)] }
    let log : Log :=
      { file := some ⟨0⟩, bytesWritten := 0, threshold := 2, active := "log", rotated := "old" }
    (start faulty "log" "old" 2).value.1 = .ok log ∧
      ∃ course : Course, course.written <+: [65, 66, 67] ∧
        (course.calls log ⟨0⟩).length = 6 ∧
        (course.calls log ⟨0⟩).flatMap FileCall.accepted = [65, 66, 10] ∧
        course.result log = .error (.rotationFailed "log" (.os 24)) ∧
        course.leaves ⟨some [], none⟩ = ⟨none, some [65, 66, 10]⟩ := by
  intro faulty log
  let files := (start faulty "log" "old" 2).value.2
  have hstarted : (start faulty "log" "old" 2).value = (.ok log, files) := rfl
  obtain ⟨file, hlog, hserves⟩ :=
    start_serves ⟨Disk.logSite_empty, rfl, rfl⟩ (fun _ => rfl) hstarted
  obtain rfl : ⟨0⟩ = file := Option.some.inj (congrArg Log.file hlog)
  obtain ⟨course, files', happend, hjournaled, -, hprefix, -, -, -, hheld⟩ :=
    @append_course FaultyDisk _ log ⟨0⟩ rfl files [65, 66, 67]
  have hcalls : course.calls log ⟨0⟩ =
      (log.append (⟨files, []⟩ : Journaled FaultyDisk) [65, 66, 67]).value.2.2.calls.reverse := by
    rw [hjournaled, List.reverse_reverse]
  refine ⟨rfl, course, hprefix, ?_, ?_, ?_, ?_⟩
  · rw [hcalls]
    decide +kernel
  · rw [hcalls]
    decide +kernel
  · exact (congrArg Prod.fst happend).symm.trans (by decide +kernel)
  · have hsame : Forgets (id : FaultyDisk → FaultyDisk) :=
      ⟨fun _ _ _ => rfl, fun _ _ _ => rfl, fun _ _ _ => rfl, fun _ _ _ => rfl⟩
    have hfiles : files' = (log.append files [65, 66, 67]).value.2.2 := by rw [happend]
    rw [← hheld id hsame _ _ [] none hserves, hfiles]
    decide +kernel

end AuditCollector.Log
