import AuditCollector.Bytes

namespace AuditCollector.Text

def utf8 (text : String) : Bytes := text.toList.flatMap String.utf8EncodeChar

theorem length_utf8 (text : String) : (utf8 text).length = text.utf8ByteSize := by
  have hbytes : (utf8 text).toByteArray = text.toByteArray := String.utf8Encode_toList
  rw [← String.size_toByteArray, ← hbytes, List.size_toByteArray]

-- The low six bits of a byte that continues a character.
def continuation? (byte : UInt8) : Option Nat :=
  if 0x80 ≤ byte ∧ byte < 0xC0 then some (byte.toNat - 0x80) else none

-- A code point that needs at least the number of bytes it was spelled with, and
-- is a character at all: longer spellings and surrogates are refused.
def scalar? (least code : Nat) : Option Char :=
  if least ≤ code ∧ code.isValidChar then some (Char.ofNat code) else none

-- The character that starts with the byte `first`, and the bytes after it.
def decodeFirst? (first : UInt8) (rest : Bytes) : Option (Char × Bytes) :=
  if first < 0x80 then some (Char.ofNat first.toNat, rest)
  else if 0xC0 ≤ first ∧ first < 0xE0 then
    match rest with
    | b :: rest => do
      let b ← continuation? b
      let c ← scalar? 0x80 ((first.toNat - 0xC0) * 0x40 + b)
      return (c, rest)
    | _ => none
  else if 0xE0 ≤ first ∧ first < 0xF0 then
    match rest with
    | b :: c :: rest => do
      let b ← continuation? b
      let c ← continuation? c
      let char ← scalar? 0x800 (((first.toNat - 0xE0) * 0x40 + b) * 0x40 + c)
      return (char, rest)
    | _ => none
  else if 0xF0 ≤ first ∧ first < 0xF8 then
    match rest with
    | b :: c :: d :: rest => do
      let b ← continuation? b
      let c ← continuation? c
      let d ← continuation? d
      let char ← scalar? 0x10000 ((((first.toNat - 0xF0) * 0x40 + b) * 0x40 + c) * 0x40 + d)
      return (char, rest)
    | _ => none
  else none

theorem length_le_of_decodeFirst? {first : UInt8} {rest after : Bytes} {c : Char}
    (h : decodeFirst? first rest = some (c, after)) : after.length ≤ rest.length := by
  unfold decodeFirst? at h
  split at h
  · simp_all
  all_goals
    repeat' split at h
    all_goals simp_all [Option.bind_eq_some_iff]
    all_goals grind

-- A piece of a byte string read as text: a character, or a byte that starts none.
inductive Piece where
  | char (c : Char)
  | stray (byte : UInt8)

def pieces : Bytes → List Piece
  | [] => []
  | first :: rest =>
    match h : decodeFirst? first rest with
    | some (c, after) =>
      have := length_le_of_decodeFirst? h
      .char c :: pieces after
    | none => .stray first :: pieces rest
termination_by bytes => bytes.length

def Piece.char? : Piece → Option Char
  | .char c => some c
  | .stray _ => none

def decode? (bytes : Bytes) : Option String :=
  ((pieces bytes).mapM Piece.char?).map String.ofList

end AuditCollector.Text
