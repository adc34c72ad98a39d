import AuditCollector.Toml.Number

namespace AuditCollector.Toml

open Text

-- A number of exactly two digits within bounds.
def twoDigits? (least most : Nat) : Reader Nat
  | a :: b :: rest => do
    let n := 10 * (← digit? 10 a) + (← digit? 10 b)
    if least ≤ n ∧ n ≤ most then some (n, rest) else none
  | _ => none

def isLeapYear (year : Nat) : Bool := year % 4 = 0 && (year % 100 ≠ 0 || year % 400 = 0)

def daysIn (year month : Nat) : Nat :=
  if month = 2 then (if isLeapYear year then 29 else 28)
  else if month = 4 ∨ month = 6 ∨ month = 9 ∨ month = 11 then 30
  else 31

def date? : List Char → Option (List Char)
  | a :: b :: c :: d :: '-' :: rest => do
    let year := ofDigits 10 (← [a, b, c, d].mapM (digit? 10))
    let (month, rest) ← twoDigits? 1 12 rest
    match rest with
    | '-' :: rest =>
      let (_, rest) ← twoDigits? 1 (daysIn year month) rest
      return rest
    | _ => none
  | _ => none

-- Seconds are required and can be the leap second, fractions can have any length.
def time? (text : List Char) : Option (List Char) := do
  let (_, rest) ← twoDigits? 0 23 text
  match rest with
  | ':' :: rest =>
    let (_, rest) ← twoDigits? 0 59 rest
    match rest with
    | ':' :: rest =>
      let (_, rest) ← twoDigits? 0 60 rest
      match rest with
      | '.' :: c :: fraction =>
        if c.isDigit then return fraction.dropWhile Char.isDigit else return rest
      | _ => return rest
    | _ => none
  | _ => none

def offset? : List Char → Option (List Char)
  | 'Z' :: rest | 'z' :: rest => some rest
  | c :: rest => do
    if c ≠ '+' ∧ c ≠ '-' then none
    let (_, rest) ← twoDigits? 0 23 rest
    match rest with
    | ':' :: rest =>
      let (_, rest) ← twoDigits? 0 59 rest
      return rest
    | _ => none
  | [] => none

-- A date, a time, or both with or without an offset.
def moment? (text : List Char) : Option (List Char) :=
  match date? text with
  | none => time? text
  | some rest =>
    match rest with
    | c :: afterMark =>
      if c = 'T' ∨ c = 't' ∨ c = ' ' then
        match time? afterMark with
        | some rest => some ((offset? rest).getD rest)
        | none => some rest
      else some rest
    | [] => some []

end AuditCollector.Toml
