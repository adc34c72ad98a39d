import AuditCollector.Proofs.Disk.TwoNames

namespace AuditCollector

variable {active rotated : String} {activeAt place : Place} {handle : FileHandle}
  {content current more : Bytes} {position : Nat}

namespace Bytes

-- The bytes with others written over them from a position on. At their end this is appending.
def writtenOver (content : Bytes) (position : Nat) (more : Bytes) : Bytes :=
  content.take position ++ more ++ content.drop (position + more.length)

theorem writtenOver_nil (content : Bytes) (position : Nat) : content.writtenOver position [] = content := by
  simp [writtenOver]

theorem le_length_writtenOver (hwithin : position ≤ content.length) (more : Bytes) :
    position + more.length ≤ (content.writtenOver position more).length := by
  simp only [writtenOver, List.length_append, List.length_take_of_le hwithin]
  omega

-- Two writes one after the other are like one.
theorem writtenOver_writtenOver (hwithin : position ≤ content.length) (first second : Bytes) :
    (content.writtenOver position first).writtenOver (position + first.length) second =
      content.writtenOver position (first ++ second) := by
  have hlength : (content.take position ++ first).length = position + first.length := by
    rw [List.length_append, List.length_take_of_le hwithin]
  have htake : (content.writtenOver position first).take (position + first.length) =
      content.take position ++ first := List.take_left' hlength
  have hdrop : (content.writtenOver position first).drop (position + first.length + second.length) =
      content.drop (position + (first ++ second).length) := by
    rw [← List.drop_drop, writtenOver, List.drop_left' hlength, List.drop_drop, List.length_append,
      Nat.add_assoc]
  rw [writtenOver, htake, hdrop, writtenOver, List.append_assoc (content.take position)]

end Bytes

namespace Disk

variable {before disk disk' : Disk}

-- The disk is as it was before, but for `more` that was written to an open file from a position on.
structure Grown (before : Disk) (handle : FileHandle) (place : Place) (content : Bytes) (position : Nat)
    (more : Bytes) (disk : Disk) : Prop where
  names : before.SameNames disk
  writes : disk.WritesAt handle place (content.writtenOver position more) (position + more.length)
  others : ∀ other, other ≠ place → disk.contentAt? other = before.contentAt? other

theorem WritesAt.grown (h : disk.WritesAt handle place content position) :
    disk.Grown handle place content position [] disk := by
  refine ⟨⟨rfl, rfl, rfl⟩, ?_, fun other _ => rfl⟩
  rwa [Bytes.writtenOver_nil]

theorem SameNames.trans (h : before.SameNames disk) (h' : disk.SameNames disk') :
    before.SameNames disk' :=
  ⟨h'.entries.trans h.entries, h'.working.trans h.working, h'.length.trans h.length⟩

theorem SameNames.symm (h : disk.SameNames disk') : disk'.SameNames disk :=
  ⟨h.entries.symm, h.working.symm, h.length.symm⟩

theorem Grown.keptByWrites (wf : before.WellFormed) (hwithin : position ≤ content.length) :
    KeptByWrites handle (before.Grown handle place content position) := by
  intro more disk h data
  obtain ⟨disk', hwrite, hsame, hwrites, hothers⟩ :=
    h.writes.write (h.names.wellFormed wf) (Bytes.le_length_writtenOver hwithin more) data
  refine ⟨disk', hwrite, h.names.trans hsame, ?_, fun other hother =>
    (hothers other hother).trans (h.others other hother)⟩
  have hover := Bytes.writtenOver_writtenOver hwithin more data
  rw [Bytes.writtenOver] at hover
  rwa [hover, Nat.add_assoc, ← List.length_append] at hwrites

-- A path leads to one place only.
theorem LeadsTo.unique {path : String} {other : Place} (h : disk.LeadsTo path place)
    (h' : disk.LeadsTo path other) : place = other := by
  obtain ⟨parent, name, htarget, -, rfl⟩ := h
  obtain ⟨parent', name', htarget', -, rfl⟩ := h'
  cases htarget.symm.trans htarget'
  rfl

-- A rename can only work if the new path leads to a name.
theorem leadsTo_of_rename (hactive : disk.LeadsTo active activeAt)
    (hfree : disk.entryAt? activeAt ≠ some .directory) (hrename : disk.rename active rotated = .ok disk') :
    ∃ rotatedAt, disk.LeadsTo rotated rotatedAt := by
  obtain ⟨source, hsource, hname, hslash, hplace, hlookUp⟩ := hactive.exists_target
  unfold Disk.rename at hrename
  split at hrename
  · cases hrename
  rw [hsource] at hrename
  cases hdestination : disk.target rotated with
  | error error =>
    rw [hdestination] at hrename
    cases hrename
  | ok destination =>
    obtain ⟨parent, name?, asks⟩ := destination
    cases name? with
    | none =>
      simp only [hdestination, bind, Except.bind, hname, Option.isNone_none, Bool.or_true, if_true] at hrename
      cases hrename
    | some name =>
      simp only [hdestination, bind, Except.bind, hname, hlookUp, Option.isNone_some, Bool.or_false,
        Bool.false_eq_true, if_false] at hrename
      cases hmoved : disk.entryAt? activeAt with
      | none =>
        rw [hmoved] at hrename
        cases hrename
      | some moved =>
        have hfile : moved ≠ .directory := fun hmoved' => hfree (by rw [hmoved, hmoved'])
        by_cases hlong : maxNameLength < byteLength name
        · simp only [hmoved, lookUp, Option.any_some, decide_eq_true_eq, if_pos hlong] at hrename
          cases hrename
        · simp only [hmoved, lookUp, Option.any_some, decide_eq_true_eq, if_neg hlong] at hrename
          cases asks with
          | true =>
            simp only [relocate, ne_eq, hfile, Bool.or_true, not_false_eq_true, and_self, if_true] at hrename
            cases hrename
          | false => exact ⟨parent ++ [name], parent, name, hdestination, Nat.not_lt.mp hlong, rfl⟩

-- A file can be moved only to another name, where the paths lead to different ones if they lead anywhere.
theorem rename_of_apart (wf : disk.WellFormed) (hactive : disk.LeadsTo active activeAt)
    (hapart : ¬disk.LeadsTo rotated activeAt) (hcurrent : disk.contentAt? activeAt = some current)
    (hrename : disk.rename active rotated = .ok disk') :
    ∃ rotatedAt, rotatedAt ≠ activeAt ∧ disk.LeadsTo rotated rotatedAt ∧
      disk'.TwoNames active rotated activeAt rotatedAt ∧
      disk'.held activeAt rotatedAt = ⟨none, some current⟩ := by
  have hfree : disk.entryAt? activeAt ≠ some .directory := by
    intro hdirectory
    rw [contentAt?, hdirectory] at hcurrent
    cases hcurrent
  obtain ⟨rotatedAt, hrotated⟩ := leadsTo_of_rename hactive hfree hrename
  have hne : activeAt ≠ rotatedAt := by
    rintro rfl
    exact hapart hrotated
  have hnames : disk.TwoNames active rotated activeAt rotatedAt :=
    ⟨wf, hactive, hrotated, hne, hfree⟩
  rcases hnames.rename_of_some hcurrent with ⟨error, herror⟩ | ⟨moved, hmoved, hnames', hheld⟩
  · cases hrename.symm.trans herror
  · cases hrename.symm.trans hmoved
    exact ⟨rotatedAt, hne.symm, hrotated, hnames', hheld⟩

end Disk

end AuditCollector
