import AuditCollector.Text.Digits

namespace AuditCollector.Rule.Numeral

open Text

-- At least one digit, nothing else, and a value that fits a word.
def parseDigits? (base : Nat) (text : List Char) : Option UInt32 := do
  let digits ← text.mapM (digit? base)
  if digits = [] then none else (ofDigitsBelow? UInt32.size base digits).map UInt32.ofNat

-- The base is told by how the numeral starts: `0x` or `0X` for sixteen, any other
-- leading zero for eight. A zero alone is decimal.
def parse? (text : List Char) : Option UInt32 :=
  match text with
  | '0' :: 'x' :: digits | '0' :: 'X' :: digits => parseDigits? 16 digits
  | '0' :: c :: digits => parseDigits? 8 (c :: digits)
  | digits => parseDigits? 10 digits

end AuditCollector.Rule.Numeral
