import AuditCollector.Proofs.Disk.Shared
import AuditCollector.Proofs.Log.Commands

namespace AuditCollector.Log

open Disk

-- A file that is written over from a position within it.
structure Tape where
  content : Bytes
  position : Nat
  within : position ≤ content.length

namespace Tape

variable {tape tape' : Tape}

theorem ext (hcontent : tape.content = tape'.content) (hposition : tape.position = tape'.position) :
    tape = tape' := by
  cases tape
  cases tape'
  cases hcontent
  cases hposition
  rfl

def rewound (content : Bytes) : Tape := { content, position := 0, within := Nat.zero_le _ }

-- What is written replaces what was there, and more is added at the end.
def write (tape : Tape) (data : Bytes) : Tape where
  content := tape.content.take tape.position ++ data ++
    tape.content.drop (tape.position + data.length)
  position := tape.position + data.length
  within := by
    have hwithin := tape.within
    simp only [List.length_append, List.length_take, List.length_drop]
    omega

theorem write_nil (tape : Tape) : tape.write [] = tape :=
  ext (by simp [write]) rfl

theorem write_write (tape : Tape) (data data' : Bytes) :
    (tape.write data).write data' = tape.write (data ++ data') := by
  have hlength : (tape.content.take tape.position ++ data).length = tape.position + data.length := by
    rw [List.length_append, List.length_take, Nat.min_eq_left tape.within]
  refine ext ?_ ?_
  · simp only [write]
    rw [← hlength, List.take_left, List.drop_append, Nat.add_sub_cancel_left,
      List.drop_of_length_le (Nat.le_add_right _ _), List.nil_append, List.drop_drop, hlength,
      List.length_append, Nat.add_assoc]
    simp only [List.append_assoc]
  · simp only [write, List.length_append, Nat.add_assoc]

-- A record is written with its newline. If that was too far, the next one goes to the start.
def append (threshold : Nat) (tape : Tape) (record : Bytes) : Tape :=
  let tape := tape.write (record ++ separator)
  if threshold < tape.position then rewound tape.content else tape

end Tape

variable {log : Log} {disk : Disk} {place : Place} {tape : Tape} {handle : FileHandle}
  {active rotated : String} {threshold : Nat}

-- The log has its one file open where the tape is.
structure Winds (log : Log) (disk : Disk) (place : Place) (tape : Tape) : Prop where
  shared : disk.Shared log.active log.rotated place
  writes : ∃ handle, log.file = some handle ∧ disk.WritesAt handle place tape.content tape.position
  counted : log.bytesWritten = tape.position

theorem write_of_tape (hshared : disk.Shared active rotated place)
    (hwrites : disk.WritesAt handle place tape.content tape.position) (data : Bytes) :
    ∃ disk', FileSystem.write ({ disk } : FaultyDisk) handle data =
        (.ok data.length, { disk := disk' }) ∧ disk'.Shared active rotated place ∧
      disk'.WritesAt handle place (tape.write data).content (tape.write data).position := by
  obtain ⟨disk', hwrite, hsame, hwrites', -⟩ := hwrites.write hshared.wellFormed tape.within data
  exact ⟨disk', FaultyDisk.write_of_disk hwrite, hshared.of_sameNames hsame, hwrites'⟩

theorem writeAll_of_tape (hshared : disk.Shared active rotated place)
    (hwrites : disk.WritesAt handle place tape.content tape.position) (data : Bytes) :
    ∃ disk', writeAll ({ disk } : FaultyDisk) handle data = ⟨data.length, 0, none, { disk := disk' }⟩ ∧
      disk'.Shared active rotated place ∧
      disk'.WritesAt handle place (tape.write data).content (tape.write data).position := by
  by_cases hdata : data = []
  · subst hdata
    rw [Tape.write_nil]
    exact ⟨disk, writeAll_nil _ _, hshared, hwrites⟩
  · obtain ⟨disk', hwrite, hshared', hwrites'⟩ := write_of_tape hshared hwrites data
    refine ⟨disk', ?_, hshared', hwrites'⟩
    rw [writeAll_of_pos hdata (List.length_pos_iff.mpr hdata) hwrite, List.drop_length, writeAll_nil]
    rfl

-- A rotation leaves the file where it is and goes back to its start.
theorem Winds.rotateIfLarge (h : log.Winds disk place tape) :
    ∃ log' disk', (log.rotateIfLarge ({ disk } : FaultyDisk)).value = (.ok (), log', { disk := disk' }) ∧
      log'.threshold = log.threshold ∧
      log'.Winds disk' place
        (if log.threshold < tape.position then .rewound tape.content else tape) := by
  obtain ⟨handle, hfile, hwrites⟩ := h.writes
  by_cases hlarge : log.threshold < log.bytesWritten
  · obtain ⟨handle', opened, disk', hopen, hmode, hshared, hwrites'⟩ := h.shared.openFile fileMode
    rw [rotateIfLarge_of_lt hlarge, if_pos (h.counted ▸ hlarge)]
    rw [hwrites.contentAt?] at hwrites'
    have hrename := FaultyDisk.rename_of_disk (h.shared.rename_of_some hwrites.contentAt?)
    exact ⟨_, disk', rotate_of_reopened hrename (FaultyDisk.openFile_of_disk hopen hmode), rfl,
      hshared, ⟨handle', rfl, hwrites'⟩, rfl⟩
  · rw [rotateIfLarge_of_le (Nat.not_lt.mp hlarge), if_neg (h.counted ▸ hlarge)]
    exact ⟨log, disk, rfl, rfl, h⟩

theorem Winds.append (h : log.Winds disk place tape) (record : Bytes) :
    ∃ log' disk', (log.append ({ disk } : FaultyDisk) record).value =
        (.ok (), log', { disk := disk' }) ∧
      log'.threshold = log.threshold ∧ log'.Winds disk' place (tape.append log.threshold record) := by
  obtain ⟨handle, hfile, hwrites⟩ := h.writes
  obtain ⟨disk₁, hrecord, hshared₁, hwrites₁⟩ := writeAll_of_tape h.shared hwrites record
  obtain ⟨disk₂, hended, hshared₂, hwrites₂⟩ := write_of_tape hshared₁ hwrites₁ separator
  rw [Tape.write_write] at hwrites₂
  have hcounted : (log.count (record.length + separator.length)).Winds disk₂ place
      (tape.write (record ++ separator)) := by
    refine ⟨hshared₂, ⟨handle, hfile, hwrites₂⟩, ?_⟩
    simp only [count, h.counted, Tape.write, List.length_append]
  obtain ⟨log', disk', hturned, hthreshold, hwinds⟩ := hcounted.rotateIfLarge
  refine ⟨log', disk', ?_, hthreshold, hwinds⟩
  have hended' : FileSystem.write (writeAll ({ disk } : FaultyDisk) handle record).files handle separator =
      (.ok separator.length, { disk := disk₂ }) := by
    rw [hrecord]
    exact hended
  rw [append_of_file hfile hended', hrecord]
  simp only [taken, hturned]
  rfl

-- By induction on the records.
theorem Winds.performAll (h : log.Winds disk place tape) (records : List Bytes) :
    ∃ log' disk', (log.performAll ({ disk } : FaultyDisk) (records.map .append)).value =
        (records.map fun _ => .ok (), log', { disk := disk' }) ∧
      log'.Winds disk' place (records.foldl (Tape.append log.threshold) tape) := by
  induction records generalizing log disk tape with
  | nil => exact ⟨log, disk, rfl, h⟩
  | cons record records ih =>
    obtain ⟨log', disk', happend, hthreshold, hwinds⟩ := h.append record
    obtain ⟨log'', disk'', hrest, hwinds'⟩ := ih hwinds
    rw [hthreshold] at hwinds'
    refine ⟨log'', disk'', ?_, hwinds'⟩
    simp only [List.map_cons, Log.performAll, perform, Traced.value_bind, Traced.value_pure, happend,
      hrest]

end AuditCollector.Log
