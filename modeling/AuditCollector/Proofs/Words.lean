import AuditCollector.Bytes

namespace AuditCollector.Bytes

def wordAt (bytes : Bytes) (i : Nat) : UInt32 := bytes.uint32At (4 * i)

def wordsAt (bytes : Bytes) (first count : Nat) : List UInt32 :=
  (List.range count).map fun i => bytes.wordAt (first + i)

variable {words : List UInt32} {i : Nat}

-- By induction on the words: each of them takes four bytes.
theorem wordAt_flatMap (hi : i < words.length) (rest : Bytes) :
    wordAt (words.flatMap ofUInt32 ++ rest) i = words[i] := by
  induction words generalizing i with
  | nil => simp at hi
  | cons word words ih =>
    rw [List.flatMap_cons, List.append_assoc]
    cases i with
    | zero => exact firstUInt32_ofUInt32_append word (words.flatMap ofUInt32 ++ rest)
    | succ i =>
      have hdrop : (ofUInt32 word ++ (words.flatMap ofUInt32 ++ rest)).drop (4 * (i + 1)) =
          (words.flatMap ofUInt32 ++ rest).drop (4 * i) := by
        rw [Nat.mul_add, Nat.mul_one, Nat.add_comm, ← List.drop_drop]
        rfl
      rw [wordAt, uint32At, hdrop]
      exact ih (by simpa using hi)

-- A stretch of the words is found where it begins.
theorem wordsAt_flatMap (before part after : List UInt32) (rest : Bytes) :
    wordsAt ((before ++ part ++ after).flatMap ofUInt32 ++ rest) before.length part.length = part := by
  apply List.ext_getElem
  · rw [wordsAt, List.length_map, List.length_range]
  · intro i _ hi
    have hlength : before.length + i < (before ++ part ++ after).length := by
      simp only [List.length_append]
      omega
    have hword : (before ++ part ++ after)[before.length + i] = part[i] := by
      simp only [List.append_assoc]
      rw [List.getElem_append_right (by omega), List.getElem_append_left (by omega)]
      simp
    simp only [wordsAt, List.getElem_map, List.getElem_range]
    rw [wordAt_flatMap hlength, hword]

theorem wordsAt_succ (bytes : Bytes) (count : Nat) :
    bytes.wordsAt 0 (count + 1) = firstUInt32 bytes :: wordsAt (bytes.drop 4) 0 count := by
  have hnext : ∀ i, bytes.wordAt (0 + (i + 1)) = wordAt (bytes.drop 4) (0 + i) := by
    intro i
    rw [wordAt, wordAt, uint32At, uint32At, List.drop_drop]
    congr 2
    omega
  simp only [wordsAt, List.range_succ_eq_map, List.map_cons, List.map_map, Function.comp_def,
    Nat.succ_eq_add_one, hnext]
  rfl

-- Words that are read and written back are the bytes that were there, as far as there are whole
-- words, and zeros then.
theorem flatMap_wordsAt (bytes : Bytes) (count : Nat) :
    (bytes.wordsAt 0 count).flatMap ofUInt32 =
      bytes.take (4 * min count (bytes.length / 4)) ++
        List.replicate (4 * count - 4 * min count (bytes.length / 4)) 0 := by
  induction count generalizing bytes with
  | zero => simp [wordsAt]
  | succ count ih =>
    have hrest : (bytes.drop 4).length = bytes.length - 4 := List.length_drop
    rw [wordsAt_succ, List.flatMap_cons, ih, hrest]
    by_cases hword : 4 ≤ bytes.length
    · have hwhole : 4 * min (count + 1) (bytes.length / 4) =
          4 + 4 * min count ((bytes.length - 4) / 4) := by omega
      have hmissing : 4 * (count + 1) - 4 * min (count + 1) (bytes.length / 4) =
          4 * count - 4 * min count ((bytes.length - 4) / 4) := by omega
      rw [ofUInt32_firstUInt32 hword, hmissing, hwhole, List.take_add, List.append_assoc]
    · have htorn : bytes.length / 4 = 0 := by omega
      have hnone : (bytes.length - 4) / 4 = 0 := by omega
      have hzeros : ofUInt32 0 = List.replicate 4 0 := rfl
      rw [firstUInt32_eq_zero_of_short (Nat.lt_of_not_le hword), htorn, hnone, hzeros]
      simp only [Nat.min_zero, Nat.mul_zero, List.take_zero, List.nil_append, Nat.sub_zero,
        List.replicate_append_replicate]
      congr 1
      omega

end AuditCollector.Bytes
