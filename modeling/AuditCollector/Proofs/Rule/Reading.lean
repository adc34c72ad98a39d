import AuditCollector.Proofs.Rule.Changes
import AuditCollector.Proofs.Words
import AuditCollector.Rule.Layout

namespace AuditCollector

namespace Rule

variable {accounts : Accounts} {path : Bytes} {rule other : Rule}

theorem length_words (rule : Rule) : rule.words.length = 260 := by
  simp only [words, List.length_append, Vector.length_toList]
  rfl

-- What the kernel finds in the bytes of a rule: words at fixed places, and behind them a
-- buffer of the length that the last word says.
structure Reading where
  flags : UInt32
  action : UInt32
  count : UInt32
  mask : List UInt32
  fields : List UInt32
  values : List UInt32
  fieldFlags : List UInt32
  bufferLength : UInt32
  buffer : Bytes
deriving DecidableEq, Repr

namespace Reading

def ofBytes (bytes : Bytes) : Reading where
  flags := bytes.wordAt 0
  action := bytes.wordAt 1
  count := bytes.wordAt 2
  mask := bytes.wordsAt 3 64
  fields := bytes.wordsAt 67 64
  values := bytes.wordsAt 131 64
  fieldFlags := bytes.wordsAt 195 64
  bufferLength := bytes.wordAt 259
  buffer := bytes.drop 1040

def predicateAt? (reading : Reading) (i : Nat) : Option Predicate := do
  let field ← Field.ofId? (← reading.fields[i]?)
  let operator ← Operator.ofBits? (← reading.fieldFlags[i]?)
  let value ← reading.values[i]?
  return { field, operator, value }

-- One for each slot that is in use, also if its numbers mean nothing.
def predicates? (reading : Reading) : List (Option Predicate) :=
  (List.range reading.count.toNat).map reading.predicateAt?

theorem ofBytes_toBytes (rule : Rule) :
    ofBytes rule.toBytes = {
      flags := rule.flags
      action := rule.action
      count := UInt32.ofNat rule.count
      mask := rule.mask.toList
      fields := rule.fields.toList
      values := rule.values.toList
      fieldFlags := rule.fieldFlags.toList
      bufferLength := UInt32.ofNat rule.path.length
      buffer := rule.path } := by
  let numbers := [rule.flags, rule.action, UInt32.ofNat rule.count]
  let last := [UInt32.ofNat rule.path.length]
  have hstretch : ∀ before part after : List UInt32, rule.words = before ++ part ++ after →
      rule.toBytes.wordsAt before.length part.length = part := by
    intro before part after hwords
    rw [toBytes, hwords]
    exact Bytes.wordsAt_flatMap before part after rule.path
  have hnumbers := hstretch [] numbers (rule.mask.toList ++ rule.fields.toList ++
    rule.values.toList ++ rule.fieldFlags.toList ++ last) (by simp [words, numbers, last])
  have hmask := hstretch numbers rule.mask.toList (rule.fields.toList ++ rule.values.toList ++
    rule.fieldFlags.toList ++ last) (by simp [words, numbers, last])
  have hfields := hstretch (numbers ++ rule.mask.toList) rule.fields.toList
    (rule.values.toList ++ rule.fieldFlags.toList ++ last) (by simp [words, numbers, last])
  have hvalues := hstretch (numbers ++ rule.mask.toList ++ rule.fields.toList) rule.values.toList
    (rule.fieldFlags.toList ++ last) (by simp [words, numbers, last])
  have hfieldFlags := hstretch (numbers ++ rule.mask.toList ++ rule.fields.toList ++
    rule.values.toList) rule.fieldFlags.toList last (by simp [words, numbers, last])
  have hlast := hstretch (numbers ++ rule.mask.toList ++ rule.fields.toList ++
    rule.values.toList ++ rule.fieldFlags.toList) last [] (by simp [words, numbers, last])
  simp only [List.length_append, Vector.length_toList] at hmask hfields hvalues hfieldFlags hlast
  have hbuffer : rule.toBytes.drop 1040 = rule.path := by
    refine List.drop_left' ?_
    rw [length_flatMap_ofUInt32, length_words]
  obtain ⟨hflags, haction, hcount⟩ : rule.toBytes.wordAt 0 = rule.flags ∧
      rule.toBytes.wordAt 1 = rule.action ∧ rule.toBytes.wordAt 2 = UInt32.ofNat rule.count := by
    simpa [Bytes.wordsAt, numbers, List.range_succ] using hnumbers
  have hlength : rule.toBytes.wordAt 259 = UInt32.ofNat rule.path.length := (List.cons.inj hlast).1
  simp only [ofBytes, mk.injEq]
  exact ⟨hflags, haction, hcount, hmask, hfields, hvalues, hfieldFlags, hlength, hbuffer⟩

-- The numbers of a slot are read as the rule itself reads them.
theorem predicates?_ofBytes_toBytes (hcount : rule.count < 2 ^ 32) :
    (ofBytes rule.toBytes).predicates? = (List.range rule.count).map rule.predicateAt? := by
  have hslots : (UInt32.ofNat rule.count).toNat = rule.count := by
    rw [UInt32.toNat_ofNat', Nat.mod_eq_of_lt hcount]
  have hslot : (ofBytes rule.toBytes).predicateAt? = rule.predicateAt? := by
    funext i
    simp only [predicateAt?, Rule.predicateAt?, ofBytes_toBytes, Vector.getElem?_toList]
  rw [predicates?, hslot, ofBytes_toBytes, hslots]

end Reading

-- Nothing in a rule is lost in its bytes, as long as its count fits a word.
theorem eq_of_toBytes_eq (hcount : rule.count < 2 ^ 32) (hcount' : other.count < 2 ^ 32)
    (h : rule.toBytes = other.toBytes) : rule = other := by
  have hreading := congrArg Reading.ofBytes h
  rw [Reading.ofBytes_toBytes, Reading.ofBytes_toBytes] at hreading
  simp only [Reading.mk.injEq, Vector.toList_inj] at hreading
  obtain ⟨hflags, haction, hcounts, hmask, hfields, hvalues, hfieldFlags, -, hpath⟩ := hreading
  have hcount_eq : rule.count = other.count := by
    have hnat := congrArg UInt32.toNat hcounts
    rwa [UInt32.toNat_ofNat', UInt32.toNat_ofNat', Nat.mod_eq_of_lt hcount,
      Nat.mod_eq_of_lt hcount'] at hnat
  cases rule
  cases other
  simp_all

-- The kernel finds in the bytes of a rule what the rule lists, and no two rules that can be
-- made have the same bytes.
theorem ofBytes_toBytes_performAll (hpath : path.length < 2 ^ 32) {changes : List Change}
    {results : List (Except RuleError Unit)}
    (hrun : (directoryWatch path).performAll accounts changes = (results, rule)) :
    let reading := Reading.ofBytes rule.toBytes
    rule.toBytes.length = 1040 + path.length ∧
      reading.flags = rule.flags ∧ reading.action = rule.action ∧
      reading.count.toNat = rule.count ∧ reading.mask = rule.mask.toList ∧
      reading.buffer = path ∧ reading.predicates? = rule.predicates.map some ∧
      (rule.predicates.head? = some ⟨.dir, .equal, reading.bufferLength⟩ ∧
        reading.bufferLength.toNat = reading.buffer.length) ∧
      ∀ {accounts' : Accounts} {path' : Bytes} {changes' : List Change}
        {results' : List (Except RuleError Unit)} {other : Rule}, path'.length < 2 ^ 32 →
        (directoryWatch path').performAll accounts' changes' = (results', other) →
        other.toBytes = rule.toBytes → other = rule := by
  intro reading
  obtain ⟨-, more, hlists, -⟩ := (lists_directoryWatch path).performAll hrun
  rw [List.nil_append] at hlists
  have hcount := hlists.count_lt
  have hpath_eq : rule.path = path := by
    rw [hlists.eq]
    rfl
  have hreading := Reading.ofBytes_toBytes rule
  rw [hpath_eq] at hreading
  refine ⟨?_, ?_, ?_, ?_, ?_, ?_, ?_, ⟨?_, ?_⟩, ?_⟩
  · rw [length_toBytes, hpath_eq]
    rfl
  · exact congrArg Reading.flags hreading
  · exact congrArg Reading.action hreading
  · rw [congrArg Reading.count hreading, UInt32.toNat_ofNat', Nat.mod_eq_of_lt hcount]
  · exact congrArg Reading.mask hreading
  · exact congrArg Reading.buffer hreading
  · rw [Reading.predicates?_ofBytes_toBytes hcount, hlists.map_predicateAt?]
  · rw [hlists.predicates_eq, congrArg Reading.bufferLength hreading]
    rfl
  · rw [congrArg Reading.bufferLength hreading, congrArg Reading.buffer hreading,
      UInt32.toNat_ofNat', Nat.mod_eq_of_lt hpath]
  · intro accounts' path' changes' results' other _ hrun' hbytes
    obtain ⟨-, more', hlists', -⟩ := (lists_directoryWatch path').performAll hrun'
    exact eq_of_toBytes_eq hlists'.count_lt hcount hbytes

-- A rule with a user, and access for writing only.
theorem ofBytes_toBytes_performAll_of_writes :
    let path : Bytes := [47, 100]
    let changes : List Change := [.add .uid .ge "7", .permit 2]
    path.length < 2 ^ 32 ∧ ∃ results rule,
      (directoryWatch path).performAll Accounts.standard changes = (results, rule) ∧
      rule.toBytes.length = 1042 ∧
      (Reading.ofBytes rule.toBytes).buffer = path ∧
      (Reading.ofBytes rule.toBytes).predicates? =
        [some ⟨.dir, .equal, 2⟩, some ⟨.perm, .equal, 2⟩, some ⟨.uid, .ge, 7⟩] := by
  intro path changes
  have hpath : path.length < 2 ^ 32 := by decide
  rcases hrun : (directoryWatch path).performAll Accounts.standard changes with ⟨results, rule⟩
  have hpredicates : ((directoryWatch path).performAll Accounts.standard changes).2.predicates =
      [⟨.dir, .equal, 2⟩, ⟨.perm, .equal, 2⟩, ⟨.uid, .ge, 7⟩] := by
    decide +kernel
  rw [hrun] at hpredicates
  obtain ⟨hlength, -, -, -, -, hbuffer, hread, -⟩ := ofBytes_toBytes_performAll hpath hrun
  refine ⟨hpath, results, rule, rfl, hlength, hbuffer, ?_⟩
  rw [hread, hpredicates]
  rfl

end Rule

end AuditCollector
