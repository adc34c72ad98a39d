import AuditCollector.Proofs.Disk.TwoNames

namespace AuditCollector

namespace Held

-- What the rotated file holds once a log that holds anything is moved aside.
def aside (held : Held) : Option Bytes :=
  if held.active.getD [] = [] then held.rotated else held.active

-- The last log that holds anything.
def last? (held : Held) : Option Bytes :=
  (held.active.toList ++ held.rotated.toList).find? (· ≠ [])

-- That the active file is made where it was missing changes nothing about it.
theorem last?_opened (held : Held) :
    last? ⟨some (held.active.getD []), held.rotated⟩ = held.last? := by
  obtain ⟨_ | active, rotated⟩ := held
  · rfl
  · rfl

theorem last?_moved {current : Bytes} (hcurrent : current ≠ []) (previous : Option Bytes) :
    last? ⟨none, some current⟩ = last? ⟨some current, previous⟩ := by
  simp [last?, hcurrent]

-- Room is made for the active file: one that holds anything is moved, unless it is believed to be
-- missing.
inductive MakesRoom (believed : Prop) : Held → Held → Prop where
  | stays {held : Held} (h : ¬believed → held.active.getD [] = []) : MakesRoom believed held held
  | moves {current : Bytes} {previous : Option Bytes} (hcurrent : current ≠ []) :
    MakesRoom believed ⟨some current, previous⟩ ⟨none, some current⟩

namespace MakesRoom

variable {believed : Prop} {held between : Held}

theorem last?_eq (h : MakesRoom believed held between) : between.last? = held.last? := by
  cases h with
  | stays _ => rfl
  | moves hcurrent => exact last?_moved hcurrent _

theorem empty (h : MakesRoom believed held between) (hknown : ¬believed) :
    between.active.getD [] = [] := by
  cases h with
  | stays hempty => exact hempty hknown
  | moves hcurrent => rfl

theorem rotated_eq (h : MakesRoom believed held between) (hknown : ¬believed) :
    between.rotated = held.aside := by
  cases h with
  | stays hempty => rw [aside, if_pos (hempty hknown)]
  | moves hcurrent => exact (if_neg hcurrent).symm

end MakesRoom

end Held

namespace Log

variable {faulty files : FaultyDisk} {active rotated : String} {activeAt rotatedAt : Place}
  {threshold : Nat} {result : Except LogError Log}

-- The system says that a file is missing which holds something.
def Denied (faulty : FaultyDisk) (active : String) (activeAt : Place) : Prop :=
  (FileSystem.size faulty active).1 = .error .notFound ∧ (faulty.disk.contentAt? activeAt).getD [] ≠ []

-- What a start comes to: nothing was done, or room was made for the active file, and it could not be
-- opened or could.
inductive Starts (faulty : FaultyDisk) (active rotated : String) (activeAt rotatedAt : Place) :
    Except LogError Log → FaultyDisk → Prop where
  | refused {step : LogStep} {error : IoError} {files : FaultyDisk}
    (hstep : step = .stat ∨ step = .rename) (hdisk : files.disk = faulty.disk) :
    Starts faulty active rotated activeAt rotatedAt (.error (.io step active error)) files
  | unopened {error : IoError} {files : FaultyDisk}
    (hnames : files.disk.TwoNames active rotated activeAt rotatedAt)
    (hroom : Held.MakesRoom (Denied faulty active activeAt) (faulty.disk.held activeAt rotatedAt)
      (files.disk.held activeAt rotatedAt)) :
    Starts faulty active rotated activeAt rotatedAt (.error (.io .openFile active error)) files
  | opened {between : Held} {log : Log} {files : FaultyDisk}
    (hnames : files.disk.TwoNames active rotated activeAt rotatedAt)
    (hroom : Held.MakesRoom (Denied faulty active activeAt) (faulty.disk.held activeAt rotatedAt) between)
    (hheld : files.disk.held activeAt rotatedAt = ⟨some (between.active.getD []), between.rotated⟩)
    (hbytes : log.bytesWritten = 0) :
    Starts faulty active rotated activeAt rotatedAt (.ok log) files

theorem create_starts {between : FaultyDisk}
    (hnames : between.disk.TwoNames active rotated activeAt rotatedAt)
    (hroom : Held.MakesRoom (Denied faulty active activeAt) (faulty.disk.held activeAt rotatedAt)
      (between.disk.held activeAt rotatedAt))
    (hcreated : (create between active rotated threshold).value = (result, files)) :
    Starts faulty active rotated activeAt rotatedAt result files := by
  unfold create at hcreated
  rcases FaultyDisk.openFile_of_twoNames hnames with
    ⟨error, files', hopen, hdisk⟩ | ⟨handle, files', hopen, hnames', hheld⟩
  · simp only [Traced.value_bind, hopen, Traced.value_pure] at hcreated
    cases hcreated
    rw [← hdisk] at hnames hroom
    exact .unopened hnames hroom
  · simp only [Traced.value_bind, hopen, Traced.value_pure] at hcreated
    cases hcreated
    exact .opened hnames' hroom hheld rfl

theorem start_starts (h : faulty.disk.TwoNames active rotated activeAt rotatedAt)
    (hstarted : (start faulty active rotated threshold).value = (result, files)) :
    Starts faulty active rotated activeAt rotatedAt result files := by
  unfold start at hstarted
  rcases FaultyDisk.size_of_twoNames h with
    ⟨error, between, hsize, hdisk⟩ | ⟨content, between, hcontent, hsize, hdisk⟩
  · rw [hsize] at hstarted
    by_cases hmissing : error = .notFound
    · simp only [hmissing, if_true] at hstarted
      refine create_starts (hdisk ▸ h) ?_ hstarted
      rw [hdisk]
      refine .stays fun hknown => ?_
      by_contra hcontent
      exact hknown ⟨by rw [hsize, hmissing], hcontent⟩
    · simp only [hmissing, if_false] at hstarted
      cases hstarted
      exact .refused (.inl rfl) hdisk
  · have hbetween : between.disk.TwoNames active rotated activeAt rotatedAt := hdisk ▸ h
    have hactive : between.disk.contentAt? activeAt = some content := hdisk ▸ hcontent
    cases content with
    | nil =>
      rw [hsize] at hstarted
      refine create_starts hbetween ?_ hstarted
      rw [hdisk]
      refine .stays fun _ => ?_
      rw [Disk.held, hcontent]
      rfl
    | cons byte bytes =>
      simp only [hsize, List.length_cons] at hstarted
      rcases FaultyDisk.rename_of_twoNames hbetween hactive with
        ⟨error, files', hrename, hdisk'⟩ | ⟨moved, hrename, hmoved, hheld⟩
      · rw [hrename] at hstarted
        cases hstarted
        exact .refused (.inr rfl) (hdisk'.trans hdisk)
      · rw [hrename] at hstarted
        refine create_starts hmoved ?_ hstarted
        rw [hheld, Disk.held, hcontent]
        exact .moves (List.cons_ne_nil byte bytes)

namespace Starts

theorem twoNames (hstarts : Starts faulty active rotated activeAt rotatedAt result files)
    (h : faulty.disk.TwoNames active rotated activeAt rotatedAt) :
    files.disk.TwoNames active rotated activeAt rotatedAt := by
  cases hstarts with
  | refused hstep hdisk => exact hdisk ▸ h
  | unopened hnames hroom => exact hnames
  | opened hnames hroom hheld hbytes => exact hnames

theorem last?_eq (hstarts : Starts faulty active rotated activeAt rotatedAt result files) :
    (files.disk.held activeAt rotatedAt).last? = (faulty.disk.held activeAt rotatedAt).last? := by
  cases hstarts with
  | refused hstep hdisk => rw [hdisk]
  | unopened hnames hroom => exact hroom.last?_eq
  | opened hnames hroom hheld hbytes => rw [hheld, Held.last?_opened, hroom.last?_eq]

end Starts

-- What happens to a log to which nothing is appended: it is started, or one that was is closed.
inductive Restart where
  | start (threshold : Nat)
  | close (log : Log)

-- The files afterwards, whatever came of it.
def restart (active rotated : String) (faulty : FaultyDisk) : Restart → FaultyDisk
  | .start threshold => (start faulty active rotated threshold).value.2
  | .close log => (log.close faulty).2

def restartAll (active rotated : String) (faulty : FaultyDisk) (restarts : List Restart) : FaultyDisk :=
  restarts.foldl (restart active rotated) faulty

theorem disk_close (log : Log) (faulty : FaultyDisk) : (log.close faulty).2.disk = faulty.disk := by
  unfold close
  cases log.file with
  | none => rfl
  | some file =>
    have hflush : (FileSystem.flush faulty file).2.disk = faulty.disk := by
      change (faulty.flush file).2.disk = faulty.disk
      unfold FaultyDisk.flush
      split
      · rfl
      · rfl
    rcases hcall : FileSystem.flush faulty file with ⟨error | _, after⟩
    · rw [hcall] at hflush
      simp only [hcall]
      exact hflush
    · rw [hcall] at hflush
      simp only [hcall]
      exact hflush

theorem restart_last?_eq (h : faulty.disk.TwoNames active rotated activeAt rotatedAt) (step : Restart) :
    let files := restart active rotated faulty step
    files.disk.TwoNames active rotated activeAt rotatedAt ∧
      (files.disk.held activeAt rotatedAt).last? = (faulty.disk.held activeAt rotatedAt).last? := by
  cases step with
  | start threshold =>
    rcases hstarted : (Log.start faulty active rotated threshold).value with ⟨result, files⟩
    have hstarts := start_starts h hstarted
    rw [restart, hstarted]
    exact ⟨hstarts.twoNames h, hstarts.last?_eq⟩
  | close log =>
    change (log.close faulty).2.disk.TwoNames _ _ _ _ ∧ ((log.close faulty).2.disk.held _ _).last? = _
    rw [disk_close]
    exact ⟨h, rfl⟩

-- By induction on the restarts: each leaves two names, so that the next one does as well.
theorem restartAll_last?_eq (h : faulty.disk.TwoNames active rotated activeAt rotatedAt)
    (restarts : List Restart) :
    ((restartAll active rotated faulty restarts).disk.held activeAt rotatedAt).last? =
      (faulty.disk.held activeAt rotatedAt).last? := by
  induction restarts generalizing faulty with
  | nil => rfl
  | cons step restarts ih =>
    obtain ⟨hnames, hlast⟩ := restart_last?_eq h step
    exact (ih hnames).trans hlast

-- A start never loses the previous log. If it goes well, the active file is empty, and what it held is
-- in the rotated one, unless that was nothing. If the size or the move fails, nothing is changed, and
-- if the active file cannot be opened, what it held is in the rotated one all the same. The system
-- must not say that a file is missing which holds something. But even then the last log that holds
-- anything stays on the disk, over any number of starts and closes.
theorem restarts_keep_last (h : faulty.disk.TwoNames active rotated activeAt rotatedAt) :
    let before := faulty.disk.held activeAt rotatedAt
    (∀ threshold,
      let started := (start faulty active rotated threshold).value
      let after := started.2.disk.held activeAt rotatedAt
      match started.1 with
      | .ok log => log.bytesWritten = 0 ∧
        (¬Denied faulty active activeAt → after = ⟨some [], before.aside⟩)
      | .error (.io .openFile path _) => path = active ∧
        (¬Denied faulty active activeAt → after.rotated = before.aside)
      | .error (.io .stat path _) | .error (.io .rename path _) =>
        path = active ∧ started.2.disk = faulty.disk
      | .error _ => False) ∧
    ∀ restarts, ((restartAll active rotated faulty restarts).disk.held activeAt rotatedAt).last? =
      before.last? := by
  intro before
  refine ⟨fun threshold => ?_, restartAll_last?_eq h⟩
  rcases hstarted : (start faulty active rotated threshold).value with ⟨result, files⟩
  cases start_starts h hstarted with
  | refused hstep hdisk =>
    rcases hstep with rfl | rfl
    · exact ⟨rfl, hdisk⟩
    · exact ⟨rfl, hdisk⟩
  | unopened hnames hroom => exact ⟨rfl, fun hknown => hroom.rotated_eq hknown⟩
  | opened hnames hroom hheld hbytes =>
    refine ⟨hbytes, fun hknown => ?_⟩
    rw [hheld, hroom.empty hknown, hroom.rotated_eq hknown]

-- The first start cannot move the previous log, and the second one cannot open the next one. The third
-- one can, and the one after the close finds a log that is empty.
theorem restarts_keep_last_of_failures :
    let logAt : Place := [['w', 'o', 'r', 'k'], ['l', 'o', 'g']]
    let oldAt : Place := [['w', 'o', 'r', 'k'], ['o', 'l', 'd']]
    let faulty : FaultyDisk :=
      { disk := (Disk.empty.addFile logAt fileMode [65]).addFile oldAt fileMode [66]
        renames := [some (.os 13)]
        opens := [some (.os 24)] }
    let log : Log :=
      { file := some ⟨0⟩, bytesWritten := 0, threshold := 9, active := "log", rotated := "old" }
    let restarts : List Restart := [.start 9, .start 9, .start 9, .close log, .start 9]
    faulty.disk.TwoNames "log" "old" logAt oldAt ∧
      (restarts.inits.map fun restarts => (restartAll "log" "old" faulty restarts).disk.held logAt oldAt) =
        [⟨some [65], some [66]⟩, ⟨some [65], some [66]⟩, ⟨none, some [65]⟩, ⟨some [], some [65]⟩,
          ⟨some [], some [65]⟩, ⟨some [], some [65]⟩] ∧
      ((restartAll "log" "old" faulty restarts).disk.held logAt oldAt).last? = some [65] := by
  intro logAt oldAt faulty log restarts
  have hnames : faulty.disk.TwoNames "log" "old" logAt oldAt :=
    ⟨(Disk.wellFormed_empty.addFile rfl rfl _ _).addFile rfl rfl _ _,
      Disk.leadsTo_name (by decide) (by decide) (by decide) (by decide) (by decide) (by decide),
      Disk.leadsTo_name (by decide) (by decide) (by decide) (by decide) (by decide) (by decide),
      by decide, by decide⟩
  refine ⟨hnames, ?_, ?_⟩
  · decide +kernel
  · rw [(restarts_keep_last hnames).2 restarts]
    decide +kernel

end Log

end AuditCollector
