namespace AuditCollector.Text

def digit? (base : Nat) (c : Char) : Option Nat :=
  let value :=
    if c.isDigit then c.toNat - '0'.toNat
    else if 'a' ≤ c ∧ c ≤ 'f' then c.toNat - 'a'.toNat + 10
    else if 'A' ≤ c ∧ c ≤ 'F' then c.toNat - 'A'.toNat + 10
    else base
  if value < base then some value else none

-- The number that digits denote, the most significant one first.
def ofDigits (base : Nat) (digits : List Nat) : Nat :=
  digits.foldl (fun value digit => value * base + digit) 0

-- That number if it is below `bound`. Digits cannot make a number smaller, so we stop
-- at the first one that takes it to the bound.
def ofDigitsBelow? (bound base : Nat) (digits : List Nat) : Option Nat :=
  digits.foldlM (fun value digit =>
    if value * base + digit < bound then some (value * base + digit) else none) 0

theorem le_foldl_digits {base : Nat} (hbase : 0 < base) (digits : List Nat) (value : Nat) :
    value ≤ digits.foldl (fun value digit => value * base + digit) value := by
  induction digits generalizing value with
  | nil => exact Nat.le_refl value
  | cons digit digits ih =>
    calc value ≤ value * base := Nat.le_mul_of_pos_right value hbase
      _ ≤ value * base + digit := Nat.le_add_right _ _
      _ ≤ _ := ih _

theorem ofDigitsBelow?_eq {bound base : Nat} (hbound : 0 < bound) (hbase : 0 < base)
    (digits : List Nat) :
    ofDigitsBelow? bound base digits =
      if ofDigits base digits < bound then some (ofDigits base digits) else none := by
  unfold ofDigitsBelow? ofDigits
  -- the bound holds at the start, and from there on as long as we go on
  generalize 0 = value at hbound ⊢
  induction digits generalizing value with
  | nil => simp [hbound]
  | cons digit digits ih =>
    rw [List.foldlM_cons, List.foldl_cons]
    by_cases h : value * base + digit < bound
    · rw [if_pos h]
      exact ih _ h
    · have := le_foldl_digits hbase digits (value * base + digit)
      rw [if_neg h, if_neg (show ¬ _ < bound by omega)]
      rfl

end AuditCollector.Text
