import AuditCollector.Disk.Basic

namespace AuditCollector

-- What the next write does: accept no more than so many bytes, or fail.
inductive WriteFault where
  | accept (limit : Nat)
  | fail (error : IoError)
deriving DecidableEq, Repr

-- A disk whose calls go wrong as planned. Each call takes the next entry of its
-- plan, and does its work when there is none. An entry without an error lets the
-- call do its work too.
structure FaultyDisk where
  disk : Disk
  writes : List WriteFault := []
  sizes : List (Option IoError) := []
  opens : List (Option IoError) := []
  renames : List (Option IoError) := []
  flushes : List IoError := []
  modes : List IoError := []
deriving DecidableEq

namespace FaultyDisk

def settle {α : Type} (faulty : FaultyDisk) (result : Except IoError (α × Disk)) :
    Except IoError α × FaultyDisk :=
  match result with
  | .ok (a, disk) => (.ok a, { faulty with disk })
  | .error error => (.error error, faulty)

def size (faulty : FaultyDisk) (path : String) : Except IoError Nat × FaultyDisk :=
  match faulty.sizes with
  | some error :: sizes => (.error error, { faulty with sizes })
  | planned => (faulty.disk.size path, { faulty with sizes := planned.tail })

def rename (faulty : FaultyDisk) (old new : String) : Except IoError Unit × FaultyDisk :=
  match faulty.renames with
  | some error :: renames => (.error error, { faulty with renames })
  | planned => { faulty with renames := planned.tail }.settle
      ((faulty.disk.rename old new).map ((), ·))

def openFile (faulty : FaultyDisk) (path : String) (mode : Nat) :
    Except IoError FileHandle × FaultyDisk :=
  match faulty.opens with
  | some error :: opens => (.error error, { faulty with opens })
  | planned => { faulty with opens := planned.tail }.settle (faulty.disk.openFile path mode)

def setMode (faulty : FaultyDisk) (file : FileHandle) (mode : Nat) :
    Except IoError Unit × FaultyDisk :=
  match faulty.modes with
  | error :: modes => (.error error, { faulty with modes })
  | [] => faulty.settle ((faulty.disk.setMode file mode).map ((), ·))

def write (faulty : FaultyDisk) (file : FileHandle) (data : Bytes) :
    Except IoError Nat × FaultyDisk :=
  match faulty.writes with
  | .fail error :: writes => (.error error, { faulty with writes })
  | .accept limit :: writes =>
    let data := data.take limit
    { faulty with writes }.settle ((faulty.disk.write file data).map (data.length, ·))
  | [] => faulty.settle ((faulty.disk.write file data).map (data.length, ·))

def flush (faulty : FaultyDisk) (file : FileHandle) : Except IoError Unit × FaultyDisk :=
  match faulty.flushes with
  | error :: flushes => (.error error, { faulty with flushes })
  | [] => (faulty.disk.flush file, faulty)

-- A write of the disk itself accepts everything or finds no file.
theorem write_cases (faulty : FaultyDisk) (file : FileHandle) (data : Bytes) :
    (∃ n disk writes, faulty.write file data = (.ok n, { faulty with disk, writes }) ∧
      n ≤ data.length ∧ writes = faulty.writes.tail) ∨
    (∃ error writes, faulty.write file data = (.error error, { faulty with writes }) ∧
      ((faulty.writes = .fail error :: writes) ∨ error = Disk.badDescriptor)) := by
  unfold write settle
  rcases hw : faulty.writes with _ | ⟨fault, writes⟩
  · rcases hd : faulty.disk.write file data with error | disk
    · refine .inr ⟨error, [], ?_, .inr ?_⟩
      · simp [Except.map, ← hw]
      · unfold Disk.write at hd
        split at hd <;> simp_all
    · exact .inl ⟨data.length, disk, [], by simp [Except.map, ← hw], Nat.le_refl _, by simp⟩
  · cases fault with
    | fail error => exact .inr ⟨error, writes, by simp, .inl rfl⟩
    | accept limit =>
      rcases hd : faulty.disk.write file (data.take limit) with error | disk
      · refine .inr ⟨error, writes, by simp [Except.map, hd], .inr ?_⟩
        unfold Disk.write at hd
        split at hd <;> simp_all
      · exact .inl ⟨(data.take limit).length, disk, writes, by simp [Except.map, hd],
          List.length_take_le' limit data, by simp⟩

instance : FileSystem FaultyDisk where
  size := size
  rename := rename
  openFile := openFile
  setMode := setMode
  write := write
  flush := flush
  readFile faulty path := (faulty.disk.readFile path, faulty)
  remaining faulty := faulty.writes.length
  write_accepted {f f' file data accepted} h := by
    rcases write_cases f file data with ⟨n, disk, writes, hw, hn, ht⟩ | ⟨error, writes, hw, -⟩
    · obtain ⟨hn', rfl⟩ := Prod.mk.inj (hw.symm.trans h)
      simp_all
    · simp [hw] at h
  write_interrupted {f f' file data} h := by
    rcases write_cases f file data with ⟨n, disk, writes, hw, -, -⟩ | ⟨error, writes, hw, he⟩
    · simp [hw] at h
    · obtain ⟨he', rfl⟩ := Prod.mk.inj (hw.symm.trans h)
      obtain rfl := Except.error.inj he'
      rcases he with he | he
      · simp [he]
      · simp [Disk.badDescriptor] at he

end FaultyDisk

end AuditCollector
