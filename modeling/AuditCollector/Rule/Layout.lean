import AuditCollector.Rule.Basic

namespace AuditCollector.Rule

-- The words in front of the path: three numbers, the four tables, and the length
-- of the path.
def words (rule : Rule) : List UInt32 :=
  [rule.flags, rule.action, UInt32.ofNat rule.count] ++ rule.mask.toList ++
    rule.fields.toList ++ rule.values.toList ++ rule.fieldFlags.toList ++
    [UInt32.ofNat rule.path.length]

def toBytes (rule : Rule) : Bytes := rule.words.flatMap Bytes.ofUInt32 ++ rule.path

-- The length of everything but the path.
def fixedLength : Nat := 4 * (3 + maskWords + 3 * maxFields + 1)

theorem length_flatMap_ofUInt32 (words : List UInt32) :
    (words.flatMap Bytes.ofUInt32).length = 4 * words.length := by
  induction words with
  | nil => rfl
  | cons word words ih =>
    simp only [List.flatMap_cons, List.length_append, Bytes.length_ofUInt32, ih, List.length_cons]
    omega

theorem length_toBytes (rule : Rule) :
    rule.toBytes.length = fixedLength + rule.path.length := by
  rw [toBytes, List.length_append, length_flatMap_ofUInt32]
  simp [words, fixedLength]
  omega

end AuditCollector.Rule
