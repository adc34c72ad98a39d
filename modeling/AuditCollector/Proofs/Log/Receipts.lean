import AuditCollector.Proofs.Disk.Serving

namespace AuditCollector

-- What the two files of a log hold, if they are there.
structure Held where
  active : Option Bytes
  rotated : Option Bytes
deriving DecidableEq, Repr

namespace Held

def plus (held : Held) (bytes : Bytes) : Held :=
  { held with active := held.active.map (· ++ bytes) }

-- A rotation leaves everything in place, or the active file is the rotated one from then on
-- and what was in that is lost. The next active file may be missing.
inductive Turns : Held → Held → Prop where
  | stays (held : Held) : Turns held held
  | moves {current : Bytes} {previous next : Option Bytes} (hnext : next = some [] ∨ next = none) :
    Turns ⟨some current, previous⟩ ⟨next, some current⟩

end Held

def Disk.held (disk : Disk) (activeAt rotatedAt : Place) : Held :=
  ⟨disk.contentAt? activeAt, disk.contentAt? rotatedAt⟩

theorem Disk.Holds.held {disk : Disk} {active rotated : String} {activeAt rotatedAt : Place}
    {current previous : Option Bytes}
    (h : disk.Holds active rotated activeAt rotatedAt current previous) :
    disk.held activeAt rotatedAt = ⟨current, previous⟩ := by
  rw [Disk.held, h.current, h.previous]

namespace Log

-- What became of a record: how many bytes of it and of its newline were accepted, and what
-- was reported. Nothing is if there is no file to write to.
structure Receipt where
  record : Bytes
  accepted? : Option Nat
  ended : Nat
  result : Except LogError Unit

namespace Receipt

-- The bytes that the log has more.
def added (receipt : Receipt) : Bytes :=
  match receipt.accepted? with
  | none => []
  | some accepted => receipt.record.take accepted ++ separator.take receipt.ended

def Whole (receipt : Receipt) : Prop := receipt.accepted? = some receipt.record.length

instance (receipt : Receipt) : Decidable receipt.Whole := inferInstanceAs (Decidable (_ = _))

theorem added_of_whole {receipt : Receipt} (h : receipt.Whole) :
    receipt.added = receipt.record ++ separator.take receipt.ended := by
  rw [added, h]
  simp

-- The whole record is there, and still a failure was reported.
def Disowned (receipt : Receipt) : Prop := receipt.Whole ∧ receipt.result ≠ .ok ()

instance (receipt : Receipt) : Decidable receipt.Disowned :=
  inferInstanceAs (Decidable (_ ∧ _))

end Receipt

section Receipt

variable {φ : Type} [FileSystem φ] {log : Log} {files : φ} {file : FileHandle}

def receipt (log : Log) (files : φ) (record : Bytes) : Receipt :=
  let result := (log.append files record).value.1
  match log.file with
  | none => { record, accepted? := none, ended := 0, result }
  | some file =>
    let written := writeAll files file record
    let ended := taken (FileSystem.write written.files file separator).1
    { record, accepted? := some written.accepted, ended, result }

theorem record_receipt (log : Log) (files : φ) (record : Bytes) :
    (log.receipt files record).record = record := by
  unfold receipt
  split
  · rfl
  · rfl

theorem result_receipt (log : Log) (files : φ) (record : Bytes) :
    (log.receipt files record).result = (log.append files record).value.1 := by
  unfold receipt
  split
  · rfl
  · rfl

-- A write that does not fail takes everything, and one that fails does not.
theorem writeAll_failure (files : φ) (file : FileHandle) (data : Bytes) :
    (writeAll files file data).accepted ≤ data.length ∧
      ((writeAll files file data).failure = none ↔
        (writeAll files file data).accepted = data.length) := by
  fun_induction writeAll files file data with
  | case1 => simp
  | case2 files data hdata files' hwrite =>
    have hpos : 0 < data.length := List.length_pos_iff.mpr hdata
    simp only [Nat.zero_le, reduceCtorEq, true_and, false_iff]
    omega
  | case3 files data hdata n files' hwrite hle rest =>
    rename_i ih
    have hlength := (FileSystem.write_accepted hwrite).1
    simp only [List.length_drop] at ih
    refine ⟨?_, ih.2.trans ?_⟩
    · change n + 1 + (writeAll files' file (data.drop (n + 1))).accepted ≤ data.length
      omega
    · change _ ↔ n + 1 + (writeAll files' file (data.drop (n + 1))).accepted = data.length
      omega
  | case4 files data hdata files' hwrite hless ih => exact ih
  | case5 files data hdata error files' hwrite hother =>
    have hpos : 0 < data.length := List.length_pos_iff.mpr hdata
    simp only [Nat.zero_le, reduceCtorEq, true_and, false_iff]
    omega

-- The ways in which a look at the size can end: nothing is done, the file cannot be moved,
-- or it was moved and the next one is there or not.
inductive Turned (log : Log) (files : φ) : Except LogError Unit × Log × φ → Prop where
  | small : Turned log files (.ok (), log, files)
  | stuck {error : IoError} {files' : φ}
    (hrename : FileSystem.rename files log.active log.rotated = (.error error, files')) :
    Turned log files (.error (.rotationFailed log.rotated error), log, files')
  | lost {error : IoError} {files' files'' : φ}
    (hrename : FileSystem.rename files log.active log.rotated = (.ok (), files'))
    (hopen : (openFile files' log.active).value = (.error error, files'')) :
    Turned log files (.error (.rotationFailed log.active error), log.turnOver none, files'')
  | fresh {file : FileHandle} {files' files'' : φ}
    (hrename : FileSystem.rename files log.active log.rotated = (.ok (), files'))
    (hopen : (openFile files' log.active).value = (.ok file, files'')) :
    Turned log files (.ok (), log.turnOver (some file), files'')

theorem rotateIfLarge_turned (log : Log) (files : φ) :
    Turned log files (log.rotateIfLarge files).value := by
  obtain ⟨rotation, files', hrotates⟩ := exists_rotates log files
  rw [hrotates.value_eq]
  cases hrotates with
  | unneeded hsmall => exact .small
  | stuck hlarge hrename => exact .stuck hrename
  | lost hlarge hrename hopen => exact .lost hrename hopen
  | fresh hlarge hrename hopen => exact .fresh hrename hopen

-- A rotation fails in one way only.
theorem Turned.error_eq {turned : Except LogError Unit × Log × φ} {error : LogError}
    (h : Turned log files turned) (herror : turned.1 = .error error) :
    ∃ path source, error = .rotationFailed path source := by
  cases h with
  | small => cases herror
  | stuck hrename =>
    cases herror
    exact ⟨_, _, rfl⟩
  | lost hrename hopen =>
    cases herror
    exact ⟨_, _, rfl⟩
  | fresh hrename hopen => cases herror

theorem receipt_of_unavailable (h : log.file = none) (files : φ) (record : Bytes) :
    log.receipt files record =
      { record, accepted? := none, ended := 0, result := .error .unavailable } := by
  unfold receipt
  rw [append_of_unavailable h]
  simp only [h]

theorem receipt_of_file (h : log.file = some file) (files : φ) (record : Bytes) :
    let written := writeAll files file record
    let ended := FileSystem.write written.files file separator
    let turned := ((log.count (written.accepted + taken ended.1)).rotateIfLarge ended.2).value
    log.receipt files record =
        { record, accepted? := some written.accepted, ended := taken ended.1,
          result := report turned.1 written.failure } ∧
      (log.append files record).value.2 = turned.2 := by
  intro written ended turned
  have happend : (log.append files record).value = (report turned.1 written.failure, turned.2) :=
    append_of_file h rfl
  unfold receipt
  rw [happend]
  refine ⟨?_, rfl⟩
  simp only [h]
  rfl

-- What goes well is whole. What is whole fails only because the rotation after it does.
theorem receipt_result (log : Log) (files : φ) (record : Bytes) :
    ((log.receipt files record).result = .ok () → (log.receipt files record).Whole) ∧
      ((log.receipt files record).Disowned →
        ∃ path source, (log.receipt files record).result = .error (.rotationFailed path source)) := by
  cases hfile : log.file with
  | none =>
    rw [receipt_of_unavailable hfile]
    refine ⟨?_, ?_⟩
    · rintro ⟨⟩
    · rintro ⟨⟨⟩, -⟩
  | some file =>
    have hfailure := (writeAll_failure files file record).2
    have hturned := rotateIfLarge_turned
      (log.count ((writeAll files file record).accepted +
        taken (FileSystem.write (writeAll files file record).files file separator).1))
      (FileSystem.write (writeAll files file record).files file separator).2
    rw [(receipt_of_file hfile files record).1]
    generalize (rotateIfLarge (log.count _) (_ : φ)).value = turned at hturned ⊢
    simp only [Receipt.Disowned, Receipt.Whole, Option.some.injEq, ← hfailure]
    rcases turned with ⟨error | _, rest⟩
    · obtain ⟨path, source, rfl⟩ := hturned.error_eq rfl
      refine ⟨?_, fun _ => ⟨path, source, rfl⟩⟩
      rintro ⟨⟩
    · cases (writeAll files file record).failure with
      | none => exact ⟨fun _ => rfl, fun h => absurd rfl h.2⟩
      | some error =>
        refine ⟨?_, ?_⟩
        · rintro ⟨⟩
        · rintro ⟨⟨⟩, -⟩

end Receipt

section Contents

variable {log : Log} {disk : Disk} {faulty : FaultyDisk} {activeAt rotatedAt : Place} {handle : FileHandle}
  {current : Bytes} {previous : Option Bytes}

-- The log's file is the active one, and the next write goes to the end of it. Without a
-- file there is none at its place either.
structure Keeps (log : Log) (disk : Disk) (activeAt rotatedAt : Place) : Prop where
  serves : ∀ handle, log.file = some handle → ∃ current,
    disk.Serves log.active log.rotated activeAt rotatedAt handle current
      (disk.contentAt? rotatedAt)
  holds : log.file = none → disk.Holds log.active log.rotated activeAt rotatedAt none
    (disk.contentAt? rotatedAt)

theorem keeps_of_serves (hfile : log.file = some handle)
    (h : disk.Serves log.active log.rotated activeAt rotatedAt handle current previous) :
    log.Keeps disk activeAt rotatedAt ∧
      disk.held activeAt rotatedAt = ⟨some current, previous⟩ := by
  refine ⟨⟨?_, ?_⟩, ?_⟩
  · intro handle' hfile'
    obtain rfl : handle = handle' := Option.some.inj (hfile.symm.trans hfile')
    exact ⟨current, by rw [h.previous]; exact h⟩
  · intro hnone
    cases hfile.symm.trans hnone
  · exact h.holds.held

theorem keeps_of_holds (hfile : log.file = none)
    (h : disk.Holds log.active log.rotated activeAt rotatedAt none previous) :
    log.Keeps disk activeAt rotatedAt ∧
      disk.held activeAt rotatedAt = ⟨none, previous⟩ := by
  refine ⟨⟨?_, ?_⟩, ?_⟩
  · intro handle hfile'
    cases hfile.symm.trans hfile'
  · intro _
    rw [h.previous]
    exact h
  · exact h.held

-- What was accepted of the data is written, and nothing else happens to the disk.
theorem writeAll_kept {P : Bytes → Disk → Prop} (hkept : Disk.KeptByWrites handle P) {written : Bytes}
    (data : Bytes) (h : P written faulty.disk) :
    P (written ++ data.take (writeAll faulty handle data).accepted)
      (writeAll faulty handle data).files.disk := by
  fun_induction writeAll faulty handle data generalizing written with
  | case1 faulty => simpa using h
  | case2 faulty data hdata faulty' hwrite =>
    obtain ⟨error, plan, hfailed⟩ | ⟨n, disk', plan, haccepted, hwritten⟩ :=
      FaultyDisk.write_of_kept hkept h data
    · cases hwrite.symm.trans hfailed
    · cases hwrite.symm.trans haccepted
      simpa using hwritten
  | case3 faulty data hdata n faulty' hwrite hle rest =>
    rename_i ih
    obtain ⟨error, plan, hfailed⟩ | ⟨n, disk', plan, haccepted, hwritten⟩ :=
      FaultyDisk.write_of_kept hkept h data
    · cases hwrite.symm.trans hfailed
    · cases hwrite.symm.trans haccepted
      have hrest := ih hwritten
      rwa [List.append_assoc, ← List.take_add] at hrest
  | case4 faulty data hdata faulty' hwrite hless ih =>
    obtain ⟨error, plan, hfailed⟩ | ⟨n, disk', plan, haccepted, hwritten⟩ :=
      FaultyDisk.write_of_kept hkept h data
    · cases hwrite.symm.trans hfailed
      exact ih h
    · cases hwrite.symm.trans haccepted
  | case5 faulty data hdata error faulty' hwrite hother =>
    obtain ⟨error, plan, hfailed⟩ | ⟨n, disk', plan, haccepted, hwritten⟩ :=
      FaultyDisk.write_of_kept hkept h data
    · cases hwrite.symm.trans hfailed
      simpa using h
    · cases hwrite.symm.trans haccepted

theorem write_kept {P : Bytes → Disk → Prop} (hkept : Disk.KeptByWrites handle P) {written : Bytes}
    (data : Bytes) (h : P written faulty.disk) :
    P (written ++ data.take (taken (FileSystem.write faulty handle data).1))
      (FileSystem.write faulty handle data).2.disk := by
  obtain ⟨error, plan, hfailed⟩ | ⟨n, disk', plan, haccepted, hwritten⟩ :=
    FaultyDisk.write_of_kept hkept h data
  · rw [hfailed]
    simpa [taken] using h
  · rw [haccepted]
    exact hwritten

-- What was accepted of a record is at the end of the file.
theorem writeAll_serves {active rotated : String} (data : Bytes)
    (h : faulty.disk.Serves active rotated activeAt rotatedAt handle current previous) :
    (writeAll faulty handle data).files.disk.Serves active rotated activeAt rotatedAt handle
      (current ++ data.take (writeAll faulty handle data).accepted) previous :=
  writeAll_kept Disk.Serves.keptByWrites data h

theorem write_serves {active rotated : String} (data : Bytes)
    (h : faulty.disk.Serves active rotated activeAt rotatedAt handle current previous) :
    (FileSystem.write faulty handle data).2.disk.Serves active rotated activeAt rotatedAt handle
      (current ++ data.take (taken (FileSystem.write faulty handle data).1)) previous :=
  write_kept Disk.Serves.keptByWrites data h

theorem rename_holds {active rotated : String} {faulty' : FaultyDisk}
    (h : faulty.disk.Serves active rotated activeAt rotatedAt handle current previous)
    (hrename : FileSystem.rename faulty active rotated = (.ok (), faulty')) :
    faulty'.disk.Holds active rotated activeAt rotatedAt none (some current) := by
  rcases FaultyDisk.rename_of_some h.holds with
    ⟨error, plan, -, hfailed⟩ | ⟨disk', hrenamed, hmoved⟩
  · cases hrename.symm.trans hfailed
  · cases hrename.symm.trans hrenamed
    exact hmoved

-- What the two files hold after a rotation.
def Rotation.leaves (held : Held) : Rotation → Held
  | unneeded | stuck _ => held
  | lost _ => ⟨none, held.active⟩
  | fresh _ => ⟨some [], held.active⟩

theorem Rotation.turns_leaves (rotation : Rotation) (current : Bytes) (previous : Option Bytes) :
    Held.Turns ⟨some current, previous⟩ (rotation.leaves ⟨some current, previous⟩) := by
  cases rotation with
  | unneeded | stuck _ => exact .stays _
  | lost error => exact .moves (.inr rfl)
  | fresh file => exact .moves (.inl rfl)

-- A look at the size leaves the files in place or moves the active one.
theorem Rotates.keeps {faulty' : FaultyDisk} {rotation : Rotation} (h : Rotates log faulty rotation faulty')
    (hfile : log.file = some handle)
    (hserves : faulty.disk.Serves log.active log.rotated activeAt rotatedAt handle current previous) :
    (rotation.after log).Keeps faulty'.disk activeAt rotatedAt ∧
      faulty'.disk.held activeAt rotatedAt = rotation.leaves ⟨some current, previous⟩ := by
  cases h with
  | unneeded hsmall => exact keeps_of_serves hfile hserves
  | stuck hlarge hrename =>
    rcases FaultyDisk.rename_of_some hserves.holds with
      ⟨error, plan, -, hfailed⟩ | ⟨disk', hrenamed, hmoved⟩
    · cases hrename.symm.trans hfailed
      exact keeps_of_serves hfile hserves
    · cases hrename.symm.trans hrenamed
  | @lost error _ _ hlarge hrename hopen =>
    have hmoved := rename_holds hserves hrename
    have hnone : ((Rotation.lost error).after log).file = none := rfl
    rcases FaultyDisk.openFile_of_holds hmoved rfl with
      ⟨error, plan, -, hfailed⟩ | ⟨handle', disk', modes, hopened, -⟩
    · cases hopen.symm.trans hfailed
      exact keeps_of_holds hnone hmoved
    · cases hopen.symm.trans hopened
  | @fresh next _ _ hlarge hrename hopen =>
    have hsome : ((Rotation.fresh next).after log).file = some next := rfl
    rcases FaultyDisk.openFile_of_holds (rename_holds hserves hrename) rfl with
      ⟨error, plan, -, hfailed⟩ | ⟨handle', disk', modes, hopened, hfresh⟩
    · cases hopen.symm.trans hfailed
    · cases hopen.symm.trans hopened
      exact keeps_of_serves hsome hfresh

-- An append adds to the log what its receipt says, and then the log may turn over.
theorem append_keeps (h : log.Keeps faulty.disk activeAt rotatedAt) (record : Bytes) :
    let appended := (log.append faulty record).value.2
    appended.1.Keeps appended.2.disk activeAt rotatedAt ∧
      ((faulty.disk.held activeAt rotatedAt).plus (log.receipt faulty record).added).Turns
        (appended.2.disk.held activeAt rotatedAt) := by
  cases hfile : log.file with
  | none =>
    obtain ⟨hkeeps, hheld⟩ := keeps_of_holds hfile (h.holds hfile)
    rw [append_of_unavailable hfile, receipt_of_unavailable hfile]
    refine ⟨hkeeps, ?_⟩
    rw [hheld]
    exact .stays _
  | some handle =>
    obtain ⟨current, hserves⟩ := h.serves handle hfile
    obtain ⟨-, hheld⟩ := keeps_of_serves hfile hserves
    obtain ⟨hreceipt, happend⟩ := receipt_of_file hfile faulty record
    have hended := write_serves separator (writeAll_serves record hserves)
    rcases hlast : FileSystem.write (writeAll faulty handle record).files handle separator
      with ⟨ended, between⟩
    rw [hlast] at hended hreceipt happend
    obtain ⟨rotation, files', hrotates⟩ :=
      exists_rotates (log.count ((writeAll faulty handle record).accepted + taken ended)) between
    obtain ⟨hkeeps, hleaves⟩ := hrotates.keeps hfile hended
    rw [hreceipt, happend, hheld, hrotates.value_eq]
    refine ⟨hkeeps, ?_⟩
    simp only [Receipt.added, Held.plus, Option.map_some, ← List.append_assoc, hleaves]
    exact rotation.turns_leaves _ _

-- A log that could be started keeps its files.
theorem start_keeps {started : FaultyDisk} {active rotated : String} {threshold : Nat}
    (site : faulty.disk.LogSite active rotated activeAt rotatedAt)
    (hstat : (FileSystem.size faulty active).1 = .error .notFound →
      faulty.disk.contentAt? activeAt = none)
    (hstarted : (start faulty active rotated threshold).value = (.ok log, started)) :
    log.Keeps started.disk activeAt rotatedAt := by
  obtain ⟨handle, rfl, hserves⟩ := start_serves ⟨site, rfl, rfl⟩ hstat hstarted
  exact (keeps_of_serves rfl hserves).1

end Contents

end Log

end AuditCollector
