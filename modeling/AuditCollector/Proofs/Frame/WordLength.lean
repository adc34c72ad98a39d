import AuditCollector.Proofs.Frame.Requests

namespace AuditCollector.Frame

-- Clearing the two lowest bits rounds down to a multiple of four.
theorem toNat_and_not_three (word : UInt64) : (word &&& ~~~3).toNat = word.toNat / 4 * 4 := by
  have hmask : (~~~3 : UInt64).toNat = (2 ^ 62 - 1) * 2 ^ 2 := by decide
  have hword : word.toNat < 2 ^ 64 := word.toNat_lt
  rw [UInt64.toNat_and, hmask]
  apply Nat.eq_of_testBit_eq
  intro i
  have hfour : word.toNat / 4 * 4 = word.toNat / 2 ^ 2 * 2 ^ 2 := rfl
  rw [hfour, Nat.testBit_and, Nat.testBit_mul_two_pow, Nat.testBit_mul_two_pow,
    Nat.testBit_div_two_pow, Nat.testBit_two_pow_sub_one]
  by_cases hlow : 2 ≤ i
  · rw [Nat.sub_add_cancel hlow]
    by_cases hhigh : i < 64
    · simp [hlow]
      omega
    · have hzero : word.toNat.testBit i = false :=
        Nat.testBit_lt_two_pow (Nat.lt_of_lt_of_le hword (Nat.pow_le_pow_right (by decide) (by omega)))
      simp [hzero]
  · simp [hlow]

theorem size_eq : UInt64.size = 18446744073709551616 := rfl

section

variable {a b length payloadLength : UInt64}

theorem addWord_of_lt (h : a.toNat + b.toNat < UInt64.size) :
    addWord a b = .ok (a + b) ∧ (a + b).toNat = a.toNat + b.toNat := by
  refine ⟨if_pos h, ?_⟩
  rw [UInt64.toNat_add]
  exact Nat.mod_eq_of_lt h

theorem addWord_of_le (h : UInt64.size ≤ a.toNat + b.toNat) : addWord a b = .error .sum :=
  if_neg (Nat.not_lt.mpr h)

-- Four is added before one is taken away again, so the sum is larger than the result.
theorem alignWord_of_lt (h : length.toNat + 4 < UInt64.size) :
    ∃ padded, alignWord length = .ok padded ∧ padded.toNat = align length.toNat := by
  have hsize := size_eq
  obtain ⟨hadd, hsum⟩ := addWord_of_lt (b := 4) h
  refine ⟨(length + 4 - 1) &&& ~~~3, by rw [alignWord, hadd]; rfl, ?_⟩
  have hfour : (4 : UInt64).toNat = 4 := rfl
  have hone : (1 : UInt64).toNat = 1 := rfl
  have hpos : 1 ≤ length + 4 := by
    rw [UInt64.le_iff_toNat_le, hsum]
    omega
  rw [toNat_and_not_three, UInt64.toNat_sub_of_le _ _ hpos, hsum, align_eq]
  omega

theorem alignWord_of_le (h : UInt64.size ≤ length.toNat + 4) : alignWord length = .error .sum := by
  rw [alignWord, addWord_of_le (b := 4) h]
  rfl

-- The header is added with a check.
theorem requestLengthWord?_of_header (h : UInt64.size ≤ 16 + payloadLength.toNat) :
    requestLengthWord? payloadLength = .ok none := by
  rw [requestLengthWord?, addWord_of_le (a := 16) h]
  rfl

-- The padding is added without one.
theorem requestLengthWord?_of_padding (h : UInt64.size ≤ 16 + payloadLength.toNat + 4)
    (h' : 16 + payloadLength.toNat < UInt64.size) :
    requestLengthWord? payloadLength = .error .sum := by
  obtain ⟨hadd, hsum⟩ := addWord_of_lt (a := 16) h'
  have hpadding : UInt64.size ≤ (16 + payloadLength).toNat + 4 := by
    rw [hsum]
    exact h
  simp only [requestLengthWord?, hadd, alignWord_of_le hpadding]
  rfl

-- Where no sum is too large, the length on machine words is that on numbers.
theorem requestLengthWord?_of_lt (h : 16 + payloadLength.toNat + 4 < UInt64.size) :
    ∃ length?, requestLengthWord? payloadLength = .ok length? ∧
      length?.map UInt64.toNat = requestLength? payloadLength.toNat := by
  obtain ⟨hadd, hsum⟩ := addWord_of_lt (a := 16) (b := payloadLength) (Nat.lt_of_add_right_lt h)
  have hpadding : (16 + payloadLength).toNat + 4 < UInt64.size := by
    rw [hsum]
    exact h
  obtain ⟨padded, halign, hpadded⟩ := alignWord_of_lt hpadding
  refine ⟨if padded ≤ 8970 then some padded else none, ?_, ?_⟩
  · simp only [requestLengthWord?, hadd, halign]
    rfl
  · have hfits : padded ≤ 8970 ↔ align (headerLength + payloadLength.toNat) ≤ maxRequestLength := by
      rw [UInt64.le_iff_toNat_le, hpadded, hsum]
      rfl
    simp only [requestLength?, hfits]
    split
    · rw [Option.map_some, hpadded, hsum]
      rfl
    · rfl

end

-- On machine words a request has the right length, the least one that holds header and payload
-- and is a multiple of four, up to the longest payload. All longer ones are refused but four:
-- for these the header can be added and the padding cannot, and the program stops.
theorem requestLengthWord?_cases (payloadLength : UInt64) :
    maxPayloadLength = 8952 ∧
    let n := payloadLength.toNat
    (n ≤ maxPayloadLength → ∃ length, requestLengthWord? payloadLength = .ok (some length) ∧
      4 ∣ length.toNat ∧ 16 + n ≤ length.toNat ∧
      (∀ other, 4 ∣ other → 16 + n ≤ other → length.toNat ≤ other) ∧ length.toNat ≤ 8970) ∧
    (UInt64.size - 20 ≤ n ∧ n ≤ UInt64.size - 17 →
      requestLengthWord? payloadLength = .error .sum) ∧
    (maxPayloadLength < n → ¬(UInt64.size - 20 ≤ n ∧ n ≤ UInt64.size - 17) →
      requestLengthWord? payloadLength = .ok none) := by
  have hsize := size_eq
  have hmax : maxPayloadLength = 8952 := rfl
  refine ⟨hmax, ?_⟩
  intro n
  have hnat : payloadLength.toNat = n := rfl
  refine ⟨fun hfits => ?_, fun hpadding => ?_, fun hlong hno => ?_⟩
  · have hlength : requestLength? n = some (align (headerLength + n)) :=
      requestLength?_eq_some_iff.mpr ⟨hfits, rfl⟩
    obtain ⟨_, hword, hsame⟩ := @requestLengthWord?_of_lt payloadLength (by omega)
    rw [hnat, hlength, Option.map_eq_some_iff] at hsame
    obtain ⟨length, rfl, hlength⟩ := hsame
    refine ⟨length, hword, ?_⟩
    rw [hlength]
    refine ⟨align_dvd _, le_align _, fun other hdvd hle => align_le hdvd hle, ?_⟩
    rw [align_eq, headerLength]
    omega
  · exact requestLengthWord?_of_padding (by omega) (by omega)
  · by_cases hheader : UInt64.size ≤ 16 + n
    · exact requestLengthWord?_of_header hheader
    · have hlength : requestLength? n = none := requestLength?_eq_none_iff.mpr hlong
      obtain ⟨_, hword, hsame⟩ := @requestLengthWord?_of_lt payloadLength (by omega)
      rw [hnat, hlength, Option.map_eq_none_iff] at hsame
      rw [hword, hsame]

-- The longest payload whose header can still be added: it is far too long for a request, and
-- instead of being refused it stops the program.
theorem requestLengthWord?_overflows :
    let payloadLength : UInt64 := 18446744073709551599
    maxPayloadLength < payloadLength.toNat ∧
      requestLengthWord? payloadLength = .error .sum :=
  ⟨by decide, requestLengthWord?_of_padding (by decide) (by decide)⟩

end AuditCollector.Frame
