import AuditCollector.SequenceCounter
import Mathlib.Data.List.Nodup

namespace AuditCollector.SequenceCounter

-- How many numbers there are: those that are not negative in 16 bits.
def period : Nat := 32768

def number (counter : SequenceCounter) : Nat := counter.current.toInt.toNat

theorem number_lt (counter : SequenceCounter) : counter.number < period := by
  have hle : counter.current.toInt ≤ 32767 := counter.current.toInt_le
  unfold number period
  omega

-- The last number was not negative, as it is at the start and after each request.
def Valid (counter : SequenceCounter) : Prop := 0 ≤ counter.current.toInt

theorem startingAt_valid (value : Int16) : (startingAt value).Valid := by
  change 0 ≤ (if value < 0 then (0 : Int16) else value).toInt
  by_cases hneg : value < 0
  · simp only [if_pos hneg, Int16.toInt_zero, Int.le_refl]
  · rw [if_neg hneg]
    rw [Int16.lt_iff_toInt_lt, Int16.toInt_zero] at hneg
    omega

theorem number_startingAt (value : Int16) : (startingAt value).number = value.toInt.toNat := by
  change (if value < 0 then (0 : Int16) else value).toInt.toNat = _
  by_cases hneg : value < 0
  · rw [if_pos hneg, Int16.toInt_zero]
    rw [Int16.lt_iff_toInt_lt, Int16.toInt_zero] at hneg
    omega
  · rw [if_neg hneg]

section Next

variable {counter : SequenceCounter} (h : counter.Valid)

include h

theorem toInt_current : counter.current.toInt = counter.number := (Int.toNat_of_nonneg h).symm

theorem toInt_current_add_one :
    (counter.current + 1).toInt = ((counter.number + 1 : Nat) : Int).bmod 65536 := by
  have hadd : (counter.current + 1).toInt = (counter.current.toInt + 1).bmod 65536 :=
    Int16.toInt_add counter.current 1
  rw [hadd, toInt_current h]
  rfl

-- The next number is negative after the last one that fits, and only then.
theorem next_neg_iff : counter.current + 1 < 0 ↔ counter.number + 1 = period := by
  have hlt := counter.number_lt
  rw [Int16.lt_iff_toInt_lt, Int16.toInt_zero, toInt_current_add_one h]
  by_cases hlast : counter.number + 1 = period
  · rw [hlast]
    exact iff_of_true (by decide) rfl
  · unfold period at hlt hlast ⊢
    rw [Int.bmod_eq_of_le (by omega) (by omega)]
    omega

-- The number after the last one that fits is zero.
theorem toInt_next :
    (if counter.current + 1 < 0 then (0 : Int16) else counter.current + 1).toInt =
      ((counter.number + 1) % period : Nat) := by
  have hlt := counter.number_lt
  simp only [next_neg_iff h]
  by_cases hlast : counter.number + 1 = period
  · rw [if_pos hlast, hlast, Int16.toInt_zero, Nat.mod_self]
    rfl
  · rw [if_neg hlast, toInt_current_add_one h]
    unfold period at hlt hlast ⊢
    rw [Int.bmod_eq_of_le (by omega) (by omega), Nat.mod_eq_of_lt (by omega)]

end Next

theorem toUInt32_of_toInt {word : Int16} {n : Nat} (h : word.toInt = n) :
    word.toInt32.toUInt32 = UInt32.ofNat n := by
  have hle : word.toInt ≤ 32767 := word.toInt_le
  have hword : word.toInt32 = Int32.ofNat n := by
    apply Int32.toInt.inj
    rw [Int16.toInt_toInt32, h, Int32.toInt_ofNat_of_lt (by omega)]
  rw [hword]
  rfl

theorem value_advance (counter : SequenceCounter) :
    counter.advance.value =
      let current := if counter.current + 1 < 0 then 0 else counter.current + 1
      (current.toInt32.toUInt32, ⟨current⟩) := by
  unfold advance
  dsimp only
  split
  · rfl
  · rfl

section Advance

variable {counter : SequenceCounter} (h : counter.Valid)

include h

-- The numbers count up and start again after the last one.
theorem issued_advance :
    counter.advance.value.1 = UInt32.ofNat ((counter.number + 1) % period) := by
  rw [value_advance]
  exact toUInt32_of_toInt (toInt_next h)

theorem number_advance : counter.advance.value.2.number = (counter.number + 1) % period := by
  rw [value_advance, number]
  simp only [toInt_next h, Int.toNat_natCast]

theorem advance_valid : counter.advance.value.2.Valid := by
  rw [value_advance, Valid]
  simp only [toInt_next h]
  exact Int.natCast_nonneg _

-- That the numbers start again is told when it happens.
theorem events_advance :
    counter.advance.events =
      if (counter.number + 1) % period = 0 then [.sequenceRestarted] else [] := by
  have hlt := counter.number_lt
  have hrestart : (counter.number + 1) % period = 0 ↔ counter.current + 1 < 0 := by
    rw [next_neg_iff h]
    unfold period at hlt ⊢
    omega
  simp only [hrestart]
  unfold advance
  dsimp only
  split
  · rfl
  · rfl

end Advance

-- The counter once so many numbers were issued.
def after (counter : SequenceCounter) : Nat → SequenceCounter
  | 0 => counter
  | n + 1 => (counter.after n).advance.value.2

theorem after_valid {counter : SequenceCounter} (h : counter.Valid) (n : Nat) :
    (counter.after n).Valid := by
  induction n with
  | zero => exact h
  | succ n ih => exact advance_valid ih

theorem number_after {counter : SequenceCounter} (h : counter.Valid) (n : Nat) :
    (counter.after n).number = (counter.number + n) % period := by
  induction n with
  | zero => exact (Nat.mod_eq_of_lt counter.number_lt).symm
  | succ n ih => rw [after, number_advance (after_valid h n), ih, Nat.mod_add_mod, Nat.add_assoc]

theorem toNat_issued_after {counter : SequenceCounter} (h : counter.Valid) (n : Nat) :
    (counter.after n).advance.value.1.toNat = (counter.number + n + 1) % period := by
  have hlt : (counter.number + n + 1) % period < 2 ^ 32 :=
    Nat.lt_trans (Nat.mod_lt _ (by decide)) (by decide)
  rw [issued_advance (after_valid h n), number_after h, Nat.mod_add_mod, UInt32.toNat_ofNat',
    Nat.mod_eq_of_lt hlt]

-- From any start the numbers are counted round a period, however many there are. What is issued is
-- the count, which is never negative, and it is told each time that this is zero again. Within a
-- period no number is issued twice.
theorem issued_round (start : Int16) :
    (∀ n,
      let counter := (startingAt start).after n
      let next := (startingAt start).after (n + 1)
      let issued := counter.advance.value.1
      counter.current.toInt = (max start.toInt 0 + n) % 32768 ∧
        (issued.toNat : Int) = next.current.toInt ∧ issued.toNat < 32768 ∧
        counter.advance.events = if issued = 0 then [.sequenceRestarted] else []) ∧
    ∀ n, ((List.range 32768).map fun i =>
      ((startingAt start).after (n + i)).advance.value.1).Nodup := by
  have hvalid := startingAt_valid start
  have hcurrent : ∀ n, ((startingAt start).after n).current.toInt =
      (((startingAt start).number + n) % period : Nat) := by
    intro n
    rw [toInt_current (after_valid hvalid n), number_after hvalid]
  refine ⟨fun n => ⟨?_, ?_, ?_, ?_⟩, fun n => ?_⟩
  · rw [hcurrent, number_startingAt, period]
    omega
  · rw [hcurrent, toNat_issued_after hvalid, Nat.add_assoc]
  · rw [toNat_issued_after hvalid]
    exact Nat.mod_lt _ (by decide)
  · rw [events_advance (after_valid hvalid n), number_after hvalid, Nat.mod_add_mod,
      ← toNat_issued_after hvalid]
    simp only [← UInt32.toNat_inj, UInt32.toNat_zero]
  · refine List.Nodup.map_on (fun i hi j hj hsame => ?_) List.nodup_range
    rw [List.mem_range] at hi hj
    have hnumbers := congrArg UInt32.toNat hsame
    rw [toNat_issued_after hvalid, toNat_issued_after hvalid] at hnumbers
    unfold period at hnumbers
    omega

end AuditCollector.SequenceCounter
