import AuditCollector.Text.Unprintable
import AuditCollector.Text.Utf8

namespace AuditCollector.Text

-- Digits of a number in base sixteen, the letters in the given case.
def hexDigits (upper : Bool) (n : Nat) : String :=
  let digits := String.ofList (Nat.toDigits 16 n)
  if upper then digits.toUpper else digits

def quoteChar (c : Char) : String :=
  if c = '"' then "\\\""
  else if c = '\\' then "\\\\"
  else if c = '\x00' then "\\0"
  else if c = '\t' then "\\t"
  else if c = '\n' then "\\n"
  else if c = '\r' then "\\r"
  else if isUnprintable c then "\\u\x7b" ++ hexDigits false c.toNat ++ "\x7d"
  else c.toString

def quote (text : String) : String :=
  "\"" ++ String.join (text.toList.map quoteChar) ++ "\""

-- Bytes that are no text show by their value, two digits each.
def quotePiece : Piece → String
  | .char c => quoteChar c
  | .stray byte =>
    let digits := hexDigits true byte.toNat
    "\\x" ++ (if byte < 0x10 then "0" ++ digits else digits)

def quoteBytes (bytes : Bytes) : String :=
  "\"" ++ String.join ((pieces bytes).map quotePiece) ++ "\""

end AuditCollector.Text
