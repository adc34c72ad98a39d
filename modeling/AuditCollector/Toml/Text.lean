import AuditCollector.Text.Digits

namespace AuditCollector.Toml

open Text

-- What is read from the front of a text, and the rest of the text.
abbrev Reader (α : Type) := List Char → Option (α × List Char)

def isBlank (c : Char) : Bool := c = ' ' || c = '\t'

-- The characters that stand for themselves: no control but the tab.
def isText (c : Char) : Bool := c = '\t' || (' ' ≤ c && c ≠ '\x7f')

def skipBlanks (text : List Char) : List Char := text.dropWhile isBlank

-- A line ends with a line feed, after a carriage return or not, or with the text.
def lineEnd? : List Char → Option (List Char)
  | [] => some []
  | '\n' :: rest | '\r' :: '\n' :: rest => some rest
  | _ => none

-- Nothing more on a line but a comment.
def restOfLine? (text : List Char) : Option (List Char) :=
  match skipBlanks text with
  | '#' :: comment => lineEnd? (comment.dropWhile isText)
  | rest => lineEnd? rest

theorem length_dropWhile_le (p : Char → Bool) (text : List Char) :
    (text.dropWhile p).length ≤ text.length :=
  (List.dropWhile_sublist p).length_le

-- Blanks, line ends and comments, which may stand between the elements of an array.
def skipGap (text : List Char) : List Char :=
  match text with
  | '#' :: comment =>
    have := length_dropWhile_le isText comment
    skipGap (comment.dropWhile isText)
  | '\r' :: '\n' :: rest => skipGap rest
  | c :: rest => if isBlank c || c = '\n' then skipGap rest else c :: rest
  | [] => []
termination_by text.length

-- The character with the number that hexadecimal digits denote.
def charOfHex? (digits : List Char) : Option Char := do
  let code := ofDigits 16 (← digits.mapM (digit? 16))
  if code.isValidChar then some (Char.ofNat code) else none

-- The character that a letter stands for after a backslash.
def escape? : Char → Option Char
  | 'b' => some '\x08'
  | 't' => some '\t'
  | 'n' => some '\n'
  | 'f' => some '\x0c'
  | 'r' => some '\r'
  | '"' => some '"'
  | '\\' => some '\\'
  | _ => none

def escaped? : Reader Char
  | 'u' :: a :: b :: c :: d :: rest => do return (← charOfHex? [a, b, c, d], rest)
  | 'U' :: a :: b :: c :: d :: e :: f :: g :: h :: rest => do
    return (← charOfHex? [a, b, c, d, e, f, g, h], rest)
  | c :: rest => do return (← escape? c, rest)
  | [] => none

theorem length_lt_of_escaped? {text rest : List Char} {c : Char}
    (h : escaped? text = some (c, rest)) : rest.length < text.length := by
  unfold escaped? at h
  split at h
  case h_4 => simp at h
  all_goals
    simp only [Option.pure_def, Option.bind_eq_bind, Option.bind_eq_some_iff] at h
    obtain ⟨_, _, h⟩ := h
    obtain ⟨-, rfl⟩ := Prod.mk.inj (Option.some.inj h)
    simp only [List.length_cons]
    omega

-- The text of a string in double quotes, after the opening one.
def basicText (text : List Char) : Option (List Char × List Char) :=
  match text with
  | '"' :: rest => some ([], rest)
  | '\\' :: rest =>
    match h : escaped? rest with
    | none => none
    | some (c, after) =>
      have := length_lt_of_escaped? h
      (basicText after).map fun (chars, rest) => (c :: chars, rest)
  | c :: rest =>
    if isText c then (basicText rest).map fun (chars, rest) => (c :: chars, rest) else none
  | [] => none
termination_by text.length

-- The text of a string in single quotes, where nothing is escaped.
def literalText : Reader (List Char)
  | '\'' :: rest => some ([], rest)
  | c :: rest =>
    if isText c then (literalText rest).map fun (chars, rest) => (c :: chars, rest) else none
  | [] => none

-- A line end right after the opening quotes of a long string does not count.
def skipFirstLineEnd : List Char → List Char
  | '\n' :: rest | '\r' :: '\n' :: rest => rest
  | text => text

-- Three quotes close a long string. One or two more right before them belong to it.
def closing (quote : Char) (rest : List Char) : List Char × List Char :=
  let extra := ((rest.take 2).takeWhile (· = quote))
  (extra, rest.drop extra.length)

-- Whether a backslash in front of this stands at the end of its line.
def endsLine (text : List Char) : Bool :=
  match skipBlanks text with
  | '\n' :: _ | '\r' :: '\n' :: _ => true
  | _ => false

-- The text of a string in three double quotes, after the opening ones. A backslash
-- at the end of a line joins it with what follows the next blanks and line ends;
-- `joining` tells that we are among those.
def longBasicText (joining : Bool) (text : List Char) : Option (List Char × List Char) :=
  match text with
  | '"' :: '"' :: '"' :: rest => some (closing '"' rest)
  | '\\' :: rest =>
    if endsLine rest then longBasicText true rest
    else
      match h : escaped? rest with
      | none => none
      | some (c, after) =>
        have := length_lt_of_escaped? h
        (longBasicText false after).map fun (chars, rest) => (c :: chars, rest)
  | '\r' :: '\n' :: rest =>
    if joining then longBasicText true rest
    else (longBasicText false rest).map fun (chars, rest) => ('\n' :: chars, rest)
  | c :: rest =>
    if joining && (isBlank c || c = '\n') then longBasicText true rest
    else if isText c || c = '\n' then
      (longBasicText false rest).map fun (chars, rest) => (c :: chars, rest)
    else none
  | [] => none
termination_by text.length

def longLiteralText : Reader (List Char)
  | '\'' :: '\'' :: '\'' :: rest => some (closing '\'' rest)
  | '\r' :: '\n' :: rest => (longLiteralText rest).map fun (chars, rest) => ('\n' :: chars, rest)
  | c :: rest =>
    if isText c || c = '\n' then
      (longLiteralText rest).map fun (chars, rest) => (c :: chars, rest)
    else none
  | [] => none

def string? (text : List Char) : Option (String × List Char) :=
  let chars :=
    match text with
    | '"' :: '"' :: '"' :: rest => longBasicText false (skipFirstLineEnd rest)
    | '"' :: rest => basicText rest
    | '\'' :: '\'' :: '\'' :: rest => longLiteralText (skipFirstLineEnd rest)
    | '\'' :: rest => literalText rest
    | _ => none
  chars.map fun (chars, rest) => (String.ofList chars, rest)

end AuditCollector.Toml
