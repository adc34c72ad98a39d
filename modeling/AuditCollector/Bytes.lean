namespace AuditCollector

-- A string of bytes. Everything that passes between us and the kernel, or
-- ends up in the log, is one.
abbrev Bytes := List UInt8

namespace Bytes

-- Words are laid out with the low byte first.
def ofUInt16 (word : UInt16) : Bytes :=
  [UInt8.ofNat word.toNat, UInt8.ofNat (word.toNat / 0x100)]

def ofUInt32 (word : UInt32) : Bytes :=
  [UInt8.ofNat word.toNat, UInt8.ofNat (word.toNat / 0x100),
    UInt8.ofNat (word.toNat / 0x10000), UInt8.ofNat (word.toNat / 0x1000000)]

-- The words in front of a byte string. A string too short for the whole word
-- reads as zero, so a torn word never contributes some of its bytes.
def firstUInt16 : Bytes → UInt16
  | a :: b :: _ => UInt16.ofNat (a.toNat + 0x100 * b.toNat)
  | _ => 0

def firstUInt32 : Bytes → UInt32
  | a :: b :: c :: d :: _ =>
    UInt32.ofNat (a.toNat + 0x100 * b.toNat + 0x10000 * c.toNat + 0x1000000 * d.toNat)
  | _ => 0

def uint16At (bytes : Bytes) (offset : Nat) : UInt16 := firstUInt16 (bytes.drop offset)

def uint32At (bytes : Bytes) (offset : Nat) : UInt32 := firstUInt32 (bytes.drop offset)

@[simp] theorem length_ofUInt16 (word : UInt16) : (ofUInt16 word).length = 2 := rfl

@[simp] theorem length_ofUInt32 (word : UInt32) : (ofUInt32 word).length = 4 := rfl

@[simp] theorem firstUInt16_ofUInt16_append (word : UInt16) (rest : Bytes) :
    firstUInt16 (ofUInt16 word ++ rest) = word := by
  apply UInt16.toNat.inj
  have := word.toNat_lt
  simp [firstUInt16, ofUInt16]
  omega

@[simp] theorem firstUInt32_ofUInt32_append (word : UInt32) (rest : Bytes) :
    firstUInt32 (ofUInt32 word ++ rest) = word := by
  apply UInt32.toNat.inj
  have := word.toNat_lt
  simp [firstUInt32, ofUInt32]
  omega

-- Reading a word and writing it back gives the bytes that were there.
theorem ofUInt16_firstUInt16 {bytes : Bytes} (h : 2 ≤ bytes.length) :
    ofUInt16 (firstUInt16 bytes) = bytes.take 2 := by
  match bytes, h with
  | a :: b :: rest, _ =>
    have ha := a.toNat_lt
    have hb := b.toNat_lt
    simp only [firstUInt16, ofUInt16, List.take_succ_cons, List.take_zero, List.cons.injEq,
      and_true]
    refine ⟨UInt8.toNat.inj ?_, UInt8.toNat.inj ?_⟩
    all_goals simp
    all_goals omega

theorem ofUInt32_firstUInt32 {bytes : Bytes} (h : 4 ≤ bytes.length) :
    ofUInt32 (firstUInt32 bytes) = bytes.take 4 := by
  match bytes, h with
  | a :: b :: c :: d :: rest, _ =>
    have ha := a.toNat_lt
    have hb := b.toNat_lt
    have hc := c.toNat_lt
    have hd := d.toNat_lt
    simp only [firstUInt32, ofUInt32, List.take_succ_cons, List.take_zero, List.cons.injEq,
      and_true]
    refine ⟨UInt8.toNat.inj ?_, UInt8.toNat.inj ?_, UInt8.toNat.inj ?_, UInt8.toNat.inj ?_⟩
    all_goals simp
    all_goals omega

theorem firstUInt32_eq_zero_of_short {bytes : Bytes} (h : bytes.length < 4) :
    firstUInt32 bytes = 0 := by
  match bytes, h with
  | [], _ | [_], _ | [_, _], _ | [_, _, _], _ => rfl

end Bytes

end AuditCollector
