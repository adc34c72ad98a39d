import AuditCollector.Proofs.Rule.Tables
import Mathlib.Algebra.Group.Nat.Defs
import Mathlib.Data.List.Basic
import Mathlib.Data.List.Induction

namespace AuditCollector.Rule

namespace Numeral

open Text

-- A digit of a base, with its value. Letters may be capital ones.
def IsDigit (base : Nat) (c : Char) (value : Nat) : Prop :=
  value < base ∧ (c = value.digitChar ∨ c = value.digitChar.toUpper)

-- Digits of a base, at least one, and the number that they are. The last one counts least.
inductive Spells (base : Nat) : List Char → Nat → Prop where
  | digit {c : Char} {value : Nat} (h : IsDigit base c value) : Spells base [c] value
  | more {digits : List Char} {n : Nat} {c : Char} {value : Nat} (hdigits : Spells base digits n)
    (h : IsDigit base c value) : Spells base (digits ++ [c]) (n * base + value)

-- A numeral as in C, with the number that it denotes. Zeros in front do not count where the base is
-- told before them.
inductive Denotes : List Char → Nat → Prop where
  | hexadecimal {x : Char} {digits : List Char} {n : Nat} (hx : x = 'x' ∨ x = 'X')
    (h : Spells 16 digits n) : Denotes ('0' :: x :: digits) n
  | octal {digits : List Char} {n : Nat} (h : Spells 8 digits n) : Denotes ('0' :: digits) n
  | zero : Denotes ['0'] 0
  | decimal {digits : List Char} {n : Nat} (h : Spells 10 digits n) (hhead : digits.head? ≠ some '0') :
    Denotes digits n

variable {base n : Nat} {c : Char} {digits text : List Char}

theorem isDigit_digitChar (hn : n < base) : IsDigit base n.digitChar n := ⟨hn, .inl rfl⟩

-- Only 22 characters have a value, and in every base up to sixteen it is the same one.
theorem digit?_eq_some_iff (hbase : base ≤ 16) {value : Nat} :
    digit? base c = some value ↔ IsDigit base c value := by
  have hsmaller : digit? base c = some value ↔ value < base ∧ digit? 16 c = some value := by
    unfold digit?
    grind
  rw [hsmaller, IsDigit]
  refine and_congr_right fun hvalue => ⟨fun hdigit => ?_, ?_⟩
  · have hchar : c.toNat < 103 := by
      unfold digit? at hdigit
      grind [Char.isDigit, Char.le_def, UInt32.le_iff_toNat_le]
    have htable : ∀ code < 103, ∀ value ∈ digit? 16 (Char.ofNat code),
        Char.ofNat code = value.digitChar ∨ Char.ofNat code = value.digitChar.toUpper := by decide
    have hrow := htable c.toNat hchar
    rw [Char.ofNat_toNat] at hrow
    exact hrow value hdigit
  · have htable : ∀ value < 16, digit? 16 value.digitChar = some value ∧
        digit? 16 value.digitChar.toUpper = some value := by decide
    rintro (rfl | rfl)
    · exact (htable value (by omega)).1
    · exact (htable value (by omega)).2

namespace Spells

theorem ne_nil (h : Spells base digits n) : digits ≠ [] := by
  cases h with
  | digit h => exact List.cons_ne_nil _ _
  | more hdigits h => simp

theorem isDigit (h : Spells base digits n) : ∀ c ∈ digits, ∃ value, IsDigit base c value := by
  induction h with
  | digit h =>
    intro c hc
    exact ⟨_, (List.mem_singleton.mp hc) ▸ h⟩
  | more hdigits h ih =>
    intro c hc
    rcases List.mem_append.mp hc with hc | hc
    · exact ih c hc
    · exact ⟨_, (List.mem_singleton.mp hc) ▸ h⟩

end Spells

-- What is read digit by digit from the front is what the digits are from the end.
theorem spells_iff (hbase : base ≤ 16) :
    Spells base text n ↔ ∃ values, values ≠ [] ∧ text.mapM (digit? base) = some values ∧
      ofDigits base values = n := by
  constructor
  · intro h
    induction h with
    | @digit c value h =>
      refine ⟨[value], List.cons_ne_nil _ _, ?_, ?_⟩
      · simp [(digit?_eq_some_iff hbase).mpr h]
      · simp [ofDigits]
    | @more digits n c value hdigits h ih =>
      obtain ⟨values, hvalues, hread, rfl⟩ := ih
      refine ⟨values ++ [value], by simp, ?_, ?_⟩
      · rw [List.mapM_append, hread]
        simp [(digit?_eq_some_iff hbase).mpr h]
      · simp [ofDigits]
  · rintro ⟨values, hvalues, hread, rfl⟩
    induction text using List.reverseRecOn generalizing values with
    | nil =>
      cases hread
      exact absurd rfl hvalues
    | append_singleton digits c ih =>
      rw [List.mapM_append] at hread
      simp only [List.mapM_cons, List.mapM_nil, Option.pure_def, Option.bind_eq_bind,
        Option.bind_eq_some_iff, Option.some.injEq] at hread
      obtain ⟨before, hbefore, _, ⟨value, hvalue, _, rfl, rfl⟩, rfl⟩ := hread
      have hdigit := (digit?_eq_some_iff hbase).mp hvalue
      by_cases hnone : before = []
      · subst hnone
        cases digits with
        | nil => simpa [ofDigits] using Spells.digit hdigit
        | cons c digits => simp [Option.bind_eq_some_iff] at hbefore
      · have hrest := (ih before hnone hbefore).more hdigit
        simpa [ofDigits] using hrest

theorem parseDigits?_eq_some_iff (hpositive : 0 < base) (hbase : base ≤ 16) {number : UInt32} :
    parseDigits? base text = some number ↔ Spells base text number.toNat := by
  rw [spells_iff hbase, parseDigits?]
  simp only [Option.bind_eq_bind, Option.bind_eq_some_iff]
  constructor
  · rintro ⟨values, hread, hvalue⟩
    by_cases hnone : values = []
    · simp [hnone] at hvalue
    · rw [if_neg hnone, ofDigitsBelow?_eq (by decide) hpositive] at hvalue
      obtain ⟨n, hn, rfl⟩ := Option.map_eq_some_iff.mp hvalue
      obtain ⟨hlt, hsame⟩ := Option.ite_none_right_eq_some.mp hn
      obtain rfl := Option.some.inj hsame
      exact ⟨values, hnone, hread, (UInt32.toNat_ofNat_of_lt' hlt).symm⟩
  · rintro ⟨values, hnone, hread, hvalue⟩
    refine ⟨values, hread, ?_⟩
    rw [if_neg hnone, ofDigitsBelow?_eq (by decide) hpositive, hvalue, if_pos number.toNat_lt_size,
      Option.map_some, UInt32.ofNat_toNat]

section Base

variable {x : Char}

theorem denotes_hexadecimal_iff (hx : x = 'x' ∨ x = 'X') :
    Denotes ('0' :: x :: digits) n ↔ Spells 16 digits n := by
  refine ⟨fun h => ?_, .hexadecimal hx⟩
  cases h with
  | hexadecimal _ h => exact h
  | octal h =>
    obtain ⟨value, hvalue⟩ := h.isDigit x List.mem_cons_self
    have hread := (digit?_eq_some_iff (by decide)).mpr hvalue
    rcases hx with rfl | rfl
    · cases hread
    · cases hread
  | decimal h hhead => exact absurd rfl hhead

theorem denotes_octal_iff (hx : ¬(c = 'x' ∨ c = 'X')) :
    Denotes ('0' :: c :: digits) n ↔ Spells 8 (c :: digits) n := by
  refine ⟨fun h => ?_, .octal⟩
  cases h with
  | hexadecimal hprefix h => exact absurd hprefix hx
  | octal h => exact h
  | decimal h hhead => exact absurd rfl hhead

-- A zero with nothing behind it is a decimal numeral like any other.
theorem denotes_decimal_iff (hzero : ∀ c digits, text ≠ '0' :: c :: digits) :
    Denotes text n ↔ Spells 10 text n := by
  constructor
  · intro h
    cases h with
    | hexadecimal hx h => exact absurd rfl (hzero _ _)
    | @octal digits _ h =>
      cases digits with
      | nil => exact absurd rfl h.ne_nil
      | cons c digits => exact absurd rfl (hzero c digits)
    | zero => exact .digit (isDigit_digitChar (by decide))
    | decimal h hhead => exact h
  · intro h
    by_cases hhead : text.head? = some '0'
    · obtain ⟨digits, rfl⟩ := List.head?_eq_some_iff.mp hhead
      cases digits with
      | nil =>
        obtain ⟨values, -, hread, rfl⟩ := (spells_iff (by decide)).mp h
        cases hread
        exact .zero
      | cons c digits => exact absurd rfl (hzero c digits)
    · exact .decimal h hhead

-- Which base it is and where the digits begin can be told from the text.
theorem exists_base (text : List Char) :
    ∃ base digits, 0 < base ∧ base ≤ 16 ∧ parse? text = parseDigits? base digits ∧
      ∀ n, Denotes text n ↔ Spells base digits n := by
  fun_cases parse? text with
  | case1 digits =>
    exact ⟨16, digits, by decide, by decide, rfl, fun n => denotes_hexadecimal_iff (.inl rfl)⟩
  | case2 digits =>
    exact ⟨16, digits, by decide, by decide, rfl, fun n => denotes_hexadecimal_iff (.inr rfl)⟩
  | case3 c digits hx hX =>
    exact ⟨8, c :: digits, by decide, by decide, rfl,
      fun n => denotes_octal_iff (not_or.mpr ⟨hx, hX⟩)⟩
  | case4 text hx hX hzero =>
    exact ⟨10, text, by decide, by decide, rfl, fun n => denotes_decimal_iff hzero⟩

end Base

theorem parse?_eq_some_iff {number : UInt32} : parse? text = some number ↔ Denotes text number.toNat := by
  obtain ⟨base, digits, hpositive, hbase, hparse, hdenotes⟩ := exists_base text
  rw [hparse, hdenotes, parseDigits?_eq_some_iff hpositive hbase]

theorem Denotes.unique {m : Nat} (hm : Denotes text m) (hn : Denotes text n) : m = n := by
  obtain ⟨base, digits, -, hbase, -, hdenotes⟩ := exists_base text
  obtain ⟨values, -, hvalues, rfl⟩ := (spells_iff hbase).mp ((hdenotes m).mp hm)
  obtain ⟨values', -, hvalues', rfl⟩ := (spells_iff hbase).mp ((hdenotes n).mp hn)
  rw [Option.some.inj (hvalues.symm.trans hvalues')]

-- All that a numeral is made of are the letters and digits of ASCII.
theorem IsDigit.isAlphanum (hbase : base ≤ 16) {value : Nat} (h : IsDigit base c value) :
    c.isAlphanum := by
  have htable : ∀ value < 16, value.digitChar.isAlphanum ∧ value.digitChar.toUpper.isAlphanum := by
    decide
  obtain ⟨hvalue, rfl | rfl⟩ := h
  · exact (htable value (by omega)).1
  · exact (htable value (by omega)).2

theorem Spells.isAlphanum (hbase : base ≤ 16) (h : Spells base digits n) :
    ∀ c ∈ digits, c.isAlphanum := by
  intro c hc
  obtain ⟨value, hvalue⟩ := h.isDigit c hc
  exact hvalue.isAlphanum hbase

theorem Denotes.isAlphanum (h : Denotes text n) : ∀ c ∈ text, c.isAlphanum := by
  have hzero : '0'.isAlphanum := by decide
  cases h with
  | hexadecimal hx h =>
    refine List.forall_mem_cons.mpr ⟨hzero, List.forall_mem_cons.mpr ⟨?_, h.isAlphanum (by decide)⟩⟩
    rcases hx with rfl | rfl
    · decide
    · decide
  | octal h => exact List.forall_mem_cons.mpr ⟨hzero, h.isAlphanum (by decide)⟩
  | zero => exact List.forall_mem_singleton.mpr hzero
  | decimal h hhead => exact h.isAlphanum (by decide)

-- By induction on the number, whose last digit is its remainder.
theorem spells_toDigits (hbase : 1 < base) (n : Nat) : Spells base (Nat.toDigits base n) n := by
  induction n using Nat.strongRecOn with
  | ind n ih =>
    by_cases hsmall : n < base
    · rw [Nat.toDigits_of_lt_base hsmall]
      exact .digit (isDigit_digitChar hsmall)
    · have hlast : n % base < base := Nat.mod_lt n (by omega)
      have hless : n / base < n := Nat.div_lt_self (by omega) hbase
      have hspells := (ih _ hless).more (isDigit_digitChar hlast)
      rwa [Nat.div_add_mod', ← Nat.toDigits_of_base_le hbase (Nat.le_of_not_lt hsmall)] at hspells

theorem head?_toDigits_ne_zero (hbase : 1 < base) (hn : n ≠ 0) :
    (Nat.toDigits base n).head? ≠ some '0' := by
  induction n using Nat.strongRecOn with
  | ind n ih =>
    by_cases hsmall : n < base
    · rw [Nat.toDigits_of_lt_base hsmall]
      simpa using hn
    · have hrest : n / base ≠ 0 := Nat.ne_of_gt (Nat.div_pos (Nat.le_of_not_lt hsmall) (by omega))
      rw [Nat.toDigits_of_base_le hbase (Nat.le_of_not_lt hsmall),
        List.head?_append_of_ne_nil _ Nat.toDigits_ne_nil]
      exact ih _ (Nat.div_lt_self (by omega) hbase) hrest

-- The ways to write a number: decimal, hexadecimal and octal, with the prefixes that tell the base.
def spellings (n : Nat) : List (List Char) :=
  [Nat.toDigits 10 n, '0' :: 'x' :: Nat.toDigits 16 n, '0' :: 'X' :: Nat.toDigits 16 n,
    '0' :: Nat.toDigits 8 n]

theorem denotes_of_mem_spellings (h : text ∈ spellings n) : Denotes text n := by
  simp only [spellings, List.mem_cons, List.not_mem_nil, or_false] at h
  rcases h with rfl | rfl | rfl | rfl
  · by_cases hn : n = 0
    · subst hn
      exact .zero
    · exact .decimal (spells_toDigits (by decide) n) (head?_toDigits_ne_zero (by decide) hn)
  · exact .hexadecimal (.inl rfl) (spells_toDigits (by decide) n)
  · exact .hexadecimal (.inr rfl) (spells_toDigits (by decide) n)
  · exact .octal (spells_toDigits (by decide) n)

-- A numeral can be told from a name by how it begins.
theorem Denotes.head?_isDigit (h : Denotes text n) : text.head?.any Char.isDigit := by
  cases h with
  | hexadecimal hx h => rfl
  | octal h => rfl
  | zero => rfl
  | @decimal digits _ h hhead =>
    obtain ⟨c, rest, rfl⟩ := List.exists_cons_of_ne_nil h.ne_nil
    obtain ⟨value, hvalue, hc⟩ := h.isDigit c List.mem_cons_self
    have htable : ∀ value < 10, value.digitChar.isDigit ∧ value.digitChar.toUpper.isDigit := by decide
    rcases hc with rfl | rfl
    · exact (htable value hvalue).1
    · exact (htable value hvalue).2

end Numeral

section AddField

open Numeral

variable {accounts : Accounts} {rule : Rule} {field : Field} {operator : Operator} {value : String}

-- A rule with room lists one more predicate once it is put in, whatever it lists else.
theorem predicates_push (hroom : rule.count < maxFields) (added : Predicate) :
    (rule.push added.field added.operator added.value).predicates = rule.predicates ++ [added] := by
  have hbefore : ∀ slot < rule.count,
      (rule.push added.field added.operator added.value).predicateAt? slot = rule.predicateAt? slot := by
    intro slot hslot
    have hne : rule.count ≠ slot := by omega
    simp only [predicateAt?, push, Vector.getElem?_setIfInBounds, if_neg hne]
  have hlast : (rule.push added.field added.operator added.value).predicateAt? rule.count = some added := by
    simp only [predicateAt?, push, Vector.getElem?_setIfInBounds, if_pos hroom, if_true,
      Option.bind_eq_bind, Option.bind_some, Field.ofId?_id, Operator.ofBits?_bits]
    rfl
  rw [predicates, predicates]
  change (List.range (rule.count + 1)).filterMap _ = _
  rw [List.range_succ, List.filterMap_append, List.filterMap_cons_some hlast, List.filterMap_nil]
  congr 1
  refine List.filterMap_congr fun slot hslot => hbefore slot (List.mem_range.mp hslot)

theorem addField_of_count_lt (hroom : rule.count < maxFields) (accounts : Accounts) (field : Field)
    (operator : Operator) (value : String) :
    rule.addField accounts field operator value =
      (resolve accounts field value).map fun number => rule.push field operator number := by
  have hensure : rule.ensureRoom = .ok () := if_neg (Nat.not_le.mpr hroom)
  rw [addField, hensure]
  cases resolve accounts field value with
  | error error => rfl
  | ok number => rfl

-- What begins like a number is never taken for a name.
theorem resolve_of_digit (hfield : field.isUser ∨ field.isGroup)
    (hdigit : value.toList.head?.any Char.isDigit) :
    resolve accounts field value =
      match parse? value.toList with
      | some number => .ok number
      | none => .error (.invalidValue field value) := by
  unfold resolve
  simp only [hdigit, if_true]
  by_cases huser : field.isUser
  · exact if_pos huser
  · exact (if_neg huser).trans (if_pos (hfield.resolve_left huser))

-- The rule has the predicate with this number behind what it had.
def Accepts (accounts : Accounts) (rule : Rule) (field : Field) (operator : Operator) (value : String)
    (number : UInt32) : Prop :=
  ∃ rule', rule.addField accounts field operator value = .ok rule' ∧
    rule'.predicates = rule.predicates ++ [{ field, operator, value := number }]

theorem accepts_iff_of_digit (hroom : rule.count < maxFields) (hfield : field.isUser ∨ field.isGroup)
    (hdigit : value.toList.head?.any Char.isDigit) {number : UInt32} :
    rule.Accepts accounts field operator value number ↔ Denotes value.toList number.toNat := by
  have hpush : ∀ number, (rule.push field operator number).predicates =
      rule.predicates ++ [{ field, operator, value := number }] :=
    fun number => predicates_push hroom { field, operator, value := number }
  have hadd := addField_of_count_lt hroom accounts field operator value
  rw [resolve_of_digit hfield hdigit] at hadd
  rw [← parse?_eq_some_iff, Accepts, hadd]
  cases parse? value.toList with
  | none => exact iff_of_false nofun nofun
  | some read =>
    constructor
    · rintro ⟨rule', hrule, hpredicates⟩
      obtain rfl := Except.ok.inj hrule
      rw [hpush, List.append_cancel_left_eq] at hpredicates
      cases hpredicates
      rfl
    · intro hsame
      obtain rfl := Option.some.inj hsame
      refine ⟨_, rfl, ?_⟩
      exact hpush read

theorem addField_of_no_numeral (hroom : rule.count < maxFields) (hfield : field.isUser ∨ field.isGroup)
    (hdigit : value.toList.head?.any Char.isDigit)
    (hnone : ∀ n < 2 ^ 32, ¬Denotes value.toList n) :
    rule.addField accounts field operator value = .error (.invalidValue field value) := by
  rw [addField_of_count_lt hroom, resolve_of_digit hfield hdigit]
  cases hparse : parse? value.toList with
  | none => rfl
  | some number => exact absurd (parse?_eq_some_iff.mp hparse) (hnone _ number.toNat_lt)

-- The numbers of users and groups are read as in C and never cut: a value that begins with a digit is
-- accepted as the number that it denotes if there is one and it fits into a word, and refused
-- otherwise. So a number that is too large is refused, and so is whatever has a sign, a separator or a
-- foreign digit in it. All ways to write a word are read back as that word.
theorem addField_numeral (hroom : rule.count < maxFields) (hfield : field.isUser ∨ field.isGroup)
    (accounts : Accounts) (operator : Operator) :
    (∀ value : String, value.toList.head?.any Char.isDigit →
      (∀ number, rule.Accepts accounts field operator value number ↔
        Denotes value.toList number.toNat) ∧
      ((∀ n < 2 ^ 32, ¬Denotes value.toList n) →
        rule.addField accounts field operator value = .error (.invalidValue field value)) ∧
      (∀ n ≥ 2 ^ 32, Denotes value.toList n →
        rule.addField accounts field operator value = .error (.invalidValue field value)) ∧
      (∀ c ∈ value.toList, ¬c.isAlphanum →
        rule.addField accounts field operator value = .error (.invalidValue field value))) ∧
    ∀ number : UInt32, ∀ text ∈ spellings number.toNat,
      rule.Accepts accounts field operator (String.ofList text) number := by
  refine ⟨fun value hdigit => ⟨?_, ?_, ?_, ?_⟩, fun number text htext => ?_⟩
  · intro number
    exact accepts_iff_of_digit hroom hfield hdigit
  · exact addField_of_no_numeral hroom hfield hdigit
  · intro n hlarge hn
    refine addField_of_no_numeral hroom hfield hdigit fun m hm hother => ?_
    rw [hother.unique hn] at hm
    omega
  · intro c hc hforeign
    refine addField_of_no_numeral hroom hfield hdigit fun n hn hdenotes => ?_
    exact hforeign (hdenotes.isAlphanum c hc)
  · have hdenotes := denotes_of_mem_spellings htext
    rw [← String.toList_ofList (l := text)] at hdenotes
    exact (accepts_iff_of_digit hroom hfield hdenotes.head?_isDigit).mpr hdenotes

-- A number with a prefix, one with a sign behind it, and one that is too large by one.
theorem addField_numeral_of_group :
    let rule := directoryWatch [47, 100]
    rule.count < maxFields ∧ Field.gid.isGroup ∧
      rule.Accepts Accounts.standard .gid .ge "0x10" 16 ∧
      rule.addField Accounts.standard .gid .ge "0x+1f" = .error (.invalidValue .gid "0x+1f") ∧
      rule.addField Accounts.standard .gid .ge "4294967296" =
        .error (.invalidValue .gid "4294967296") := by
  intro rule
  have hroom : rule.count < maxFields := by decide
  have hgroup : Field.gid.isUser ∨ Field.gid.isGroup := .inr rfl
  obtain ⟨hall, hwritten⟩ := addField_numeral hroom hgroup Accounts.standard .ge
  refine ⟨hroom, rfl, ?_, ?_, ?_⟩
  · exact hwritten 16 ['0', 'x', '1', '0'] (by decide)
  · exact (hall "0x+1f" (by decide)).2.2.2 '+' (by decide) (by decide)
  · have hdenotes : Denotes "4294967296".toList (2 ^ 32) := denotes_of_mem_spellings (by decide)
    exact (hall "4294967296" (by decide)).2.2.1 _ (Nat.le_refl _) hdenotes

end AddField

end AuditCollector.Rule
