import AuditCollector.Toml.Text

namespace AuditCollector.Toml

open Text

-- The digits after the first one. Single underscores may stand between digits.
def moreDigits (base : Nat) : Reader (List Nat)
  | '_' :: c :: rest =>
    match digit? base c with
    | some first => (moreDigits base rest).map fun (digits, rest) => (first :: digits, rest)
    | none => none
  | ['_'] => none
  | c :: rest =>
    match digit? base c with
    | some first => (moreDigits base rest).map fun (digits, rest) => (first :: digits, rest)
    | none => some ([], c :: rest)
  | [] => some ([], [])

def digits (base : Nat) : Reader (List Nat)
  | c :: rest =>
    match digit? base c with
    | some first => (moreDigits base rest).map fun (digits, rest) => (first :: digits, rest)
    | none => none
  | [] => none

def sign : List Char → Bool × List Char
  | '+' :: rest => (false, rest)
  | '-' :: rest => (true, rest)
  | text => (false, text)

-- Decimal digits without a leading zero.
def plainDigits : Reader (List Nat)
  | '0' :: rest => some ([0], rest)
  | text => digits 10 text

-- The integer that digits denote. It must fit 64 bits with a sign.
def signed? (negative : Bool) (base : Nat) (digits : List Nat) : Option Int :=
  if negative then (ofDigitsBelow? (UInt64.size / 2 + 1) base digits).map fun n => -(n : Int)
  else (ofDigitsBelow? (UInt64.size / 2) base digits).map fun n => (n : Int)

def integer? (text : List Char) : Option (Int × List Char) :=
  let based (base : Nat) (text : List Char) : Option (Int × List Char) := do
    let (digits, rest) ← digits base text
    return (← signed? false base digits, rest)
  match text with
  | '0' :: 'x' :: rest => based 16 rest
  | '0' :: 'o' :: rest => based 8 rest
  | '0' :: 'b' :: rest => based 2 rest
  | _ => do
    let (negative, rest) := sign text
    let (digits, rest) ← plainDigits rest
    return (← signed? negative 10 digits, rest)

-- Whether `digits` times the power of ten is too large for a double. The largest
-- double is the one below 2 ^ 1024, and half a step further everything rounds up.
-- That is a number of 309 digits.
def overflows (digits : List Nat) (exponent : Int) : Bool :=
  let significant := digits.dropWhile (· = 0)
  let size : Int := significant.length + exponent
  if significant.isEmpty then false
  else if size = 309 then
    1 <<< 1024 - 1 <<< 970 ≤ ofDigits 10 ((significant ++ List.replicate 309 0).take 309)
  else 309 < size

-- The size of an exponent. Digits after it has reached 65536 do not count.
def exponentSize (digits : List Nat) : Nat :=
  digits.foldl (fun size digit => if size < 65536 then 10 * size + digit else size) 0

def exponent? : Reader Int
  | c :: rest => do
    if c ≠ 'e' ∧ c ≠ 'E' then none
    let (negative, rest) := sign rest
    let (digits, rest) ← digits 10 rest
    let size : Int := exponentSize digits
    return (if negative then -size else size, rest)
  | [] => none

-- A number with a fraction, an exponent, or both. One that is too large is none,
-- unless it is negative.
def decimal? (text : List Char) : Option (List Char) := do
  let (negative, rest) := sign text
  let (whole, rest) ← plainDigits rest
  let (fraction, exponent, rest) ←
    match rest with
    | '.' :: rest => do
      let (fraction, rest) ← digits 10 rest
      match rest with
      | 'e' :: _ | 'E' :: _ => do
        let (exponent, rest) ← exponent? rest
        pure (fraction, exponent, rest)
      | _ => pure (fraction, 0, rest)
    | _ => do
      let (exponent, rest) ← exponent? rest
      pure ([], exponent, rest)
  if !negative && overflows (whole ++ fraction) (exponent - fraction.length) then none
  else some rest

def named? : List Char → Option (List Char)
  | 'i' :: 'n' :: 'f' :: rest => some rest
  | 'n' :: 'a' :: 'n' :: rest => some rest
  | _ => none

def float? (text : List Char) : Option (List Char) :=
  (decimal? text).orElse fun _ => named? (sign text).2

end AuditCollector.Toml
