import AuditCollector.Proofs.Disk.Serving
import AuditCollector.Proofs.Log.Commands

namespace AuditCollector.Log

structure Split where
  current : Bytes
  previous : Option Bytes
deriving DecidableEq, Repr

-- A record goes to the current file as a whole. If that is too large then, it becomes the
-- previous one.
def Split.append (threshold : Nat) (split : Split) (record : Bytes) : Split :=
  let current := split.current ++ record ++ separator
  if threshold < current.length then { current := [], previous := some current }
  else { split with current }

def splitAll (threshold : Nat) (previous : Option Bytes) (records : List Bytes) : Split :=
  records.foldl (Split.append threshold) { current := [], previous }

-- A plan that lets every record and its newline through, in whatever pieces: `unwritten` is
-- left of a record, and `records` come after it. Without a plan all is accepted.
inductive Flows : (unwritten : Bytes) → (records : List Bytes) → List WriteFault → Prop where
  | unplanned {unwritten records} : Flows unwritten records []
  | interrupted {unwritten records plan} (hunwritten : unwritten ≠ [])
    (hflows : Flows unwritten records plan) :
    Flows unwritten records (.fail .interrupted :: plan)
  | accepted {unwritten records plan} (n : Nat) (hunwritten : unwritten ≠ [])
    (hflows : Flows (unwritten.drop (n + 1)) records plan) :
    Flows unwritten records (.accept (n + 1) :: plan)
  | separated {record records plan} (n : Nat) (hflows : Flows record records plan) :
    Flows [] (record :: records) (.accept (n + 1) :: plan)
  | finished {plan} (n : Nat) : Flows [] [] (.accept (n + 1) :: plan)

variable {log log' : Log} {faulty files : FaultyDisk} {activeAt rotatedAt : Place}
  {handle : FileHandle} {active rotated : String} {current data record : Bytes}
  {previous : Option Bytes} {records : List Bytes} {plan : List WriteFault}

-- Nothing is planned that would keep the records out of the log. Modes may not be set.
structure Untroubled (faulty : FaultyDisk) (records : List Bytes) : Prop where
  writes : ∀ record rest, records = record :: rest → Flows record rest faulty.writes
  renames : ∀ planned ∈ faulty.renames, planned = none
  opens : ∀ planned ∈ faulty.opens, planned = none

-- By induction on the plan: an interruption leaves all there is to write, and every write
-- that is accepted leaves less.
theorem writeAll_of_flows (hflows : Flows data records plan)
    (hserves : faulty.disk.Serves active rotated activeAt rotatedAt handle current previous)
    (hplan : faulty.writes = plan) :
    ∃ disk writes, writeAll faulty handle data =
        ⟨data.length, 0, none, { faulty with disk, writes }⟩ ∧
      disk.Serves active rotated activeAt rotatedAt handle (current ++ data) previous ∧
      Flows [] records writes := by
  induction hflows generalizing faulty current with
  | @unplanned data records =>
    by_cases hdata : data = []
    · subst hdata
      exact ⟨_, _, writeAll_nil _ _, by rwa [List.append_nil], hplan ▸ .unplanned⟩
    · obtain ⟨disk, hwrite, hserves'⟩ := FaultyDisk.write_of_unplanned Disk.Serves.keptByWrites hserves hplan data
      refine ⟨disk, faulty.writes, ?_, hserves', hplan ▸ .unplanned⟩
      rw [writeAll_of_pos hdata (List.length_pos_iff.mpr hdata) hwrite, List.drop_length,
        writeAll_nil]
      rfl
  | @interrupted data records plan hdata hflows ih =>
    have hwrite := FaultyDisk.write_of_fail hplan handle data
    obtain ⟨disk, writes, hall, hserves', hflows'⟩ :=
      @ih { faulty with writes := plan } _ hserves rfl
    refine ⟨disk, writes, ?_, hserves', hflows'⟩
    rw [writeAll_of_error hdata hwrite, if_pos rfl, hall]
  | @accepted data records plan n hdata hflows ih =>
    obtain ⟨disk, hwrite, hserves'⟩ := FaultyDisk.write_of_accept Disk.Serves.keptByWrites hserves hplan data
    obtain ⟨disk', writes, hall, hserves'', hflows'⟩ :=
      @ih { faulty with disk, writes := plan } _ hserves' rfl
    have hlength := List.length_pos_iff.mpr hdata
    refine ⟨disk', writes, ?_, ?_, hflows'⟩
    · have hdrop : data.drop (min (n + 1) data.length) = data.drop (n + 1) := by
        rw [List.drop_eq_drop_iff]
        omega
      rw [writeAll_of_pos hdata (by omega) hwrite, hdrop, hall, List.length_drop]
      simp only [Written.mk.injEq, and_true, and_self]
      omega
    · rwa [List.append_assoc, List.take_append_drop] at hserves''
  | @separated record records plan n hflows =>
    exact ⟨_, _, writeAll_nil _ _, by rwa [List.append_nil], hplan ▸ .separated n hflows⟩
  | @finished plan n =>
    exact ⟨_, _, writeAll_nil _ _, by rwa [List.append_nil], hplan ▸ .finished n⟩

-- With nothing left of a record its newline is accepted, and the next record is to come.
theorem write_separator_of_flows (hflows : Flows [] records faulty.writes)
    (hserves : faulty.disk.Serves active rotated activeAt rotatedAt handle current previous) :
    ∃ disk writes, FileSystem.write faulty handle separator =
        (.ok separator.length, { faulty with disk, writes }) ∧
      disk.Serves active rotated activeAt rotatedAt handle (current ++ separator) previous ∧
      ∀ record rest, records = record :: rest → Flows record rest writes := by
  have haccept : ∀ {n plan}, faulty.writes = .accept (n + 1) :: plan →
      ∃ disk, FileSystem.write faulty handle separator =
          (.ok separator.length, { faulty with disk, writes := plan }) ∧
        disk.Serves active rotated activeAt rotatedAt handle (current ++ separator) previous := by
    intro n plan hplan
    obtain ⟨disk, hwrite, hserves'⟩ :=
      FaultyDisk.write_of_accept Disk.Serves.keptByWrites hserves hplan separator
    have hlength : separator.length ≤ n + 1 := Nat.le_add_left 1 n
    rw [Nat.min_eq_right hlength] at hwrite
    rw [List.take_of_length_le hlength] at hserves'
    exact ⟨disk, hwrite, hserves'⟩
  generalize hplan : faulty.writes = plan at hflows
  cases hflows with
  | unplanned =>
    obtain ⟨disk, hwrite, hserves'⟩ :=
      FaultyDisk.write_of_unplanned Disk.Serves.keptByWrites hserves hplan separator
    exact ⟨disk, faulty.writes, hwrite, hserves', fun _ _ _ => hplan ▸ .unplanned⟩
  | interrupted hunwritten => exact absurd rfl hunwritten
  | accepted _ hunwritten => exact absurd rfl hunwritten
  | separated n hflows =>
    obtain ⟨disk, hwrite, hserves'⟩ := haccept hplan
    refine ⟨disk, _, hwrite, hserves', ?_⟩
    rintro record rest ⟨⟩
    exact hflows
  | finished n =>
    obtain ⟨disk, hwrite, hserves'⟩ := haccept hplan
    refine ⟨disk, _, hwrite, hserves', ?_⟩
    rintro record rest ⟨⟩

structure Splits (log : Log) (files : FaultyDisk) (activeAt rotatedAt : Place)
    (split : Split) : Prop where
  serves : ∃ handle, log.file = some handle ∧ files.disk.Serves log.active log.rotated
    activeAt rotatedAt handle split.current split.previous
  counted : log.bytesWritten = split.current.length

theorem Splits.rotateIfLarge {split : Split} (h : log.Splits faulty activeAt rotatedAt split)
    (huntroubled : Untroubled faulty records) :
    ∃ log' files, (log.rotateIfLarge faulty).value = (.ok (), log', files) ∧
      log'.threshold = log.threshold ∧
      log'.Splits files activeAt rotatedAt
        (if log.threshold < split.current.length then ⟨[], some split.current⟩ else split) ∧
      Untroubled files records := by
  obtain ⟨handle, hfile, hserves⟩ := h.serves
  by_cases hlarge : log.threshold < log.bytesWritten
  · rw [rotateIfLarge_of_lt hlarge, if_pos (h.counted ▸ hlarge)]
    rcases FaultyDisk.rename_of_some hserves.holds with
      ⟨error, plan, hplan, -⟩ | ⟨disk, hrename, hmoved⟩
    · cases huntroubled.renames (some error) (by simp [hplan])
    · have hmoved' : { faulty with disk, renames := faulty.renames.tail }.disk.Holds log.active
        log.rotated activeAt rotatedAt none (some split.current) := hmoved
      rcases FaultyDisk.openFile_of_holds hmoved' rfl with
        ⟨error, plan, hplan, -⟩ | ⟨handle', disk', modes, hopen, hserves'⟩
      · cases huntroubled.opens (some error) (by rw [hplan]; simp)
      · refine ⟨_, _, rotate_of_reopened hrename hopen, rfl, ⟨⟨handle', rfl, hserves'⟩, rfl⟩,
          huntroubled.writes, ?_, ?_⟩
        · exact fun planned hplanned => huntroubled.renames planned (List.mem_of_mem_tail hplanned)
        · exact fun planned hplanned => huntroubled.opens planned (List.mem_of_mem_tail hplanned)
  · rw [rotateIfLarge_of_le (Nat.not_lt.mp hlarge), if_neg (h.counted ▸ hlarge)]
    exact ⟨log, faulty, rfl, rfl, h, huntroubled⟩

theorem Splits.append {split : Split} (h : log.Splits faulty activeAt rotatedAt split)
    (huntroubled : Untroubled faulty (record :: records)) :
    ∃ log' files, (log.append faulty record).value = (.ok (), log', files) ∧
      log'.threshold = log.threshold ∧
      log'.Splits files activeAt rotatedAt (split.append log.threshold record) ∧
      Untroubled files records := by
  obtain ⟨handle, hfile, hserves⟩ := h.serves
  obtain ⟨disk, writes, hrecord, hserves', hflows⟩ :=
    writeAll_of_flows (huntroubled.writes record records rfl) hserves rfl
  have hended : ∃ disk' writes', FileSystem.write { faulty with disk, writes } handle separator =
        (.ok separator.length, { faulty with disk := disk', writes := writes' }) ∧
      disk'.Serves log.active log.rotated activeAt rotatedAt handle
        (split.current ++ record ++ separator) split.previous ∧
      ∀ record rest, records = record :: rest → Flows record rest writes' :=
    write_separator_of_flows hflows hserves'
  obtain ⟨disk', writes', hended, hserves'', hnext⟩ := hended
  have hcounted : (log.count (record.length + separator.length)).Splits
      { faulty with disk := disk', writes := writes' } activeAt rotatedAt
      { split with current := split.current ++ record ++ separator } := by
    refine ⟨⟨handle, hfile, hserves''⟩, ?_⟩
    simp only [count, h.counted, List.length_append, Nat.add_assoc]
  obtain ⟨log', files, hturned, hthreshold, hsplits, huntroubled'⟩ :=
    hcounted.rotateIfLarge ⟨hnext, huntroubled.renames, huntroubled.opens⟩
  refine ⟨log', files, ?_, hthreshold, hsplits, huntroubled'⟩
  have hended' : FileSystem.write (writeAll faulty handle record).files handle separator =
      (.ok separator.length, { faulty with disk := disk', writes := writes' }) := by
    rw [hrecord]
    exact hended
  rw [append_of_file hfile hended', hrecord]
  simp only [taken, hturned]
  rfl

-- By induction on the records.
theorem Splits.performAll {split : Split} (h : log.Splits faulty activeAt rotatedAt split)
    (huntroubled : Untroubled faulty records) :
    ∃ log' files, (log.performAll faulty (records.map .append)).value =
        (records.map fun _ => .ok (), log', files) ∧
      log'.Splits files activeAt rotatedAt (records.foldl (Split.append log.threshold) split) := by
  induction records generalizing log faulty split with
  | nil => exact ⟨log, faulty, rfl, h⟩
  | cons record records ih =>
    obtain ⟨log', files, happend, hthreshold, hsplits, huntroubled'⟩ := h.append huntroubled
    obtain ⟨log'', files', hrest, hsplits'⟩ := ih hsplits huntroubled'
    rw [hthreshold] at hsplits'
    refine ⟨log'', files', ?_, hsplits'⟩
    simp only [List.map_cons, Log.performAll, perform, Traced.value_bind, Traced.value_pure, happend,
      hrest]

-- As long as nothing keeps the records out, the log is what the splitter says, and it does
-- not show in what pieces they were written.
theorem performAll_append_eq_splitAll {threshold : Nat} {results : List (Except LogError Unit)}
    {files' : FaultyDisk} (site : faulty.disk.LogSite active rotated activeAt rotatedAt)
    (hstat : (FileSystem.size faulty active).1 = .error .notFound →
      faulty.disk.contentAt? activeAt = none)
    (hstarted : (start faulty active rotated threshold).value = (.ok log, files))
    (huntroubled : Untroubled files records)
    (hrun : (log.performAll files (records.map .append)).value = (results, log', files')) :
    let split := splitAll threshold (files.disk.contentAt? rotatedAt) records
    (results = records.map fun _ => .ok ()) ∧
      (files'.disk.contentAt? activeAt, files'.disk.contentAt? rotatedAt, log'.bytesWritten) =
        (some split.current, split.previous, split.current.length) ∧
      ∀ other : FaultyDisk, other.disk = files.disk → Untroubled other records →
        let other' := (log.performAll other (records.map .append)).value.2.2
        other'.disk.contentAt? activeAt = files'.disk.contentAt? activeAt ∧
          other'.disk.contentAt? rotatedAt = files'.disk.contentAt? rotatedAt := by
  obtain ⟨handle, hlog, hserves⟩ := start_serves ⟨site, rfl, rfl⟩ hstat hstarted
  have hbegin : log.Splits files activeAt rotatedAt
      { current := [], previous := files.disk.contentAt? rotatedAt } := by
    subst hlog
    exact ⟨⟨handle, rfl, hserves.site, hserves.writes, rfl⟩, rfl⟩
  have hthreshold : log.threshold = threshold := by rw [hlog]
  obtain ⟨log₁, files₁, hrun₁, ⟨handle₁, -, hserves₁⟩, hcounted₁⟩ := hbegin.performAll huntroubled
  rw [hrun] at hrun₁
  cases hrun₁
  rw [hthreshold] at hserves₁ hcounted₁
  refine ⟨rfl, ?_, ?_⟩
  · rw [hserves₁.writes.contentAt?, hserves₁.previous, hcounted₁]
    rfl
  · intro other hdisk hother
    have hbegin' : log.Splits other activeAt rotatedAt
        { current := [], previous := files.disk.contentAt? rotatedAt } :=
      ⟨hdisk ▸ hbegin.serves, hbegin.counted⟩
    obtain ⟨log₂, files₂, hrun₂, ⟨handle₂, -, hserves₂⟩, -⟩ := hbegin'.performAll hother
    rw [hthreshold] at hserves₂
    simp only [hrun₂]
    rw [hserves₁.writes.contentAt?, hserves₂.writes.contentAt?, hserves₁.previous,
      hserves₂.previous]
    exact ⟨rfl, rfl⟩

-- Three records, the second one in pieces with interruptions, over a threshold of five.
theorem performAll_append_in_pieces :
    let faulty : FaultyDisk :=
      { disk := .empty,
        writes := [.accept 9, .accept 1, .accept 1, .fail .interrupted, .fail .interrupted, .accept 2,
          .accept 1] }
    let activeAt : Place := [['w', 'o', 'r', 'k'], ['l', 'o', 'g']]
    let rotatedAt : Place := [['w', 'o', 'r', 'k'], ['o', 'l', 'd']]
    ∃ log files results log' files',
      (start faulty "log" "old" 5).value = (.ok log, files) ∧
      Untroubled files [[65], [66, 67, 68], [69]] ∧
      (log.performAll files ([[65], [66, 67, 68], [69]].map .append)).value =
        (results, log', files') ∧
      results = [.ok (), .ok (), .ok ()] ∧
      (files'.disk.contentAt? activeAt, files'.disk.contentAt? rotatedAt, log'.bytesWritten) =
        (some [69, 10], some [65, 10, 66, 67, 68, 10], 2) := by
  intro faulty activeAt rotatedAt
  have hflows : Flows [65] [[66, 67, 68], [69]] faulty.writes :=
    .accepted 8 (by decide) <| .separated 0 <| .accepted 0 (by decide) <|
      .interrupted (by decide) <| .interrupted (by decide) <| .accepted 1 (by decide) <|
      .separated 0 .unplanned
  have huntroubled : ∀ files : FaultyDisk, files.writes = faulty.writes → files.renames = [] →
      files.opens = [] → Untroubled files [[65], [66, 67, 68], [69]] := by
    intro files hwrites hrenames hopens
    refine ⟨?_, by simp [hrenames], by simp [hopens]⟩
    rintro record rest ⟨⟩
    exact hwrites ▸ hflows
  have hstarted : (start faulty "log" "old" 5).value = (.ok _, _) := rfl
  have h := performAll_append_eq_splitAll Disk.logSite_empty (fun _ => rfl) hstarted
    (huntroubled _ rfl rfl rfl) rfl
  exact ⟨_, _, _, _, _, hstarted, huntroubled _ rfl rfl rfl, rfl, h.1, h.2.1⟩

end AuditCollector.Log
