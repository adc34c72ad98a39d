import AuditCollector.Toml.Moment
import AuditCollector.Toml.Value

namespace AuditCollector.Toml

-- Arrays and inline tables nest less deep than this, and keys have fewer parts.
def depthLimit : Nat := 80

def isBareKey (c : Char) : Bool := c.isAlphanum || c = '_' || c = '-'

-- One part of a key: a bare word, or a string on one line.
def keyPart? : Reader String
  | '"' :: rest => (basicText rest).map fun (chars, rest) => (String.ofList chars, rest)
  | '\'' :: rest => (literalText rest).map fun (chars, rest) => (String.ofList chars, rest)
  | text =>
    let word := text.takeWhile isBareKey
    if word = [] then none else some (String.ofList word, text.dropWhile isBareKey)

-- The parts of a key between dots, at most so many, with blanks around each.
def keyParts? : (most : Nat) → Reader (List String)
  | 0, _ => none
  | most + 1, text => do
    let (part, rest) ← keyPart? (skipBlanks text)
    match skipBlanks rest with
    | '.' :: rest =>
      let (parts, rest) ← keyParts? most rest
      return (part :: parts, rest)
    | rest => return ([part], rest)

def key? (text : List Char) : Option ((List String × String) × List Char) := do
  let (parts, rest) ← keyParts? (depthLimit - 1) text
  return ((parts.dropLast, ← parts.getLast?), rest)

def pair? (value? : Reader Value) (text : List Char) :
    Option ((List String × String × Value) × List Char) := do
  let ((path, key), rest) ← key? text
  match rest with
  | '=' :: rest =>
    let (value, rest) ← value? (skipBlanks rest)
    return ((path, key, value), rest)
  | _ => none

-- The elements of an array, after the opening bracket. A comma may follow the last.
-- There are at most `limit`, which here and below is the length of the document.
def elements? (value? : Reader Value) : (limit : Nat) → Reader (List Value)
  | 0, _ => none
  | limit + 1, text =>
    match skipGap text with
    | ']' :: rest => some ([], rest)
    | start => do
      let (value, rest) ← value? start
      match skipGap rest with
      | ']' :: rest => return ([value], rest)
      | ',' :: rest =>
        let (values, rest) ← elements? value? limit rest
        return (value :: values, rest)
      | _ => none

-- The pairs of an inline table up to the closing brace, at least one.
def inlinePairs? (value? : Reader Value) (entries : Entries) : (limit : Nat) → Reader Entries
  | 0, _ => none
  | limit + 1, text => do
    let ((path, key, value), rest) ← pair? value? text
    let entries ← entries.put? path key value
    match skipBlanks rest with
    | '\x7d' :: rest => return (entries, rest)
    | ',' :: rest => inlinePairs? value? entries limit rest
    | _ => none

def inlineTable? (value? : Reader Value) (limit : Nat) (text : List Char) :
    Option (Entries × List Char) :=
  match skipBlanks text with
  | '\x7d' :: rest => some ([], rest)
  | _ => inlinePairs? value? [] limit text

-- A value without parts. What can be read as a date is one, what has a fraction or
-- an exponent is a float.
def scalar? (text : List Char) : Option (Value × List Char) :=
  match text with
  | 't' :: 'r' :: 'u' :: 'e' :: rest => some (.boolean true, rest)
  | 'f' :: 'a' :: 'l' :: 's' :: 'e' :: rest => some (.boolean false, rest)
  | '"' :: _ | '\'' :: _ => (string? text).map fun (s, rest) => (.string s, rest)
  | _ =>
    match moment? text, float? text with
    | some rest, _ => some (.moment, rest)
    | none, some rest => some (.float, rest)
    | none, none => (integer? text).map fun (n, rest) => (.integer n, rest)

-- A value that nests no deeper than `depth`.
def value? (limit : Nat) : (depth : Nat) → Reader Value
  | 0, text => scalar? text
  | depth + 1, text =>
    match text with
    | '[' :: rest => (elements? (value? limit depth) limit rest).map fun (values, rest) =>
      (.array values, rest)
    | '\x7b' :: rest => (inlineTable? (value? limit depth) limit rest).map fun (entries, rest) =>
      (.table .inline entries, rest)
    | _ => scalar? text

-- A document being read: the tables that are done, and the one whose keys are
-- coming in, with the header it has. The keys before the first header have none.
structure Draft where
  done : Entries := []
  current : Entries := []
  header : Option (List String × String × Bool) := none

namespace Draft

-- Puts the current table where its header says, alone or after its siblings.
def finish? (draft : Draft) : Option Entries :=
  match draft.header with
  | none => some draft.current
  | some (path, key, repeated) =>
    draft.done.modify? path fun entries =>
      match entries.lookup key, repeated with
      | none, false => some ((key, .table .defined draft.current) :: entries)
      | none, true => some ((key, .tables [draft.current]) :: entries)
      | some (.tables elements), true =>
        some (entries.replace key (.tables (draft.current :: elements)))
      | _, _ => none

-- Starts a table with a header. It can continue one that is only implied so far.
def startTable? (draft : Draft) (path : List String) (key : String) : Option Draft := do
  let done ← draft.finish?
  let header := some (path, key, false)
  match done.follow (path ++ [key]) with
  | none =>
    let done ← done.modify? path some
    return { done, header }
  | some (.table .implied current) =>
    let done ← done.modify? path fun entries => some (entries.erase key)
    return { done, current, header }
  | some _ => none

def startElement? (draft : Draft) (path : List String) (key : String) : Option Draft := do
  let done ← draft.finish?
  let header := some (path, key, true)
  match done.follow (path ++ [key]) with
  | none =>
    let done ← done.modify? path some
    return { done, header }
  | some (.tables _) => return { done, header }
  | some _ => none

def put? (draft : Draft) (path : List String) (key : String) (value : Value) : Option Draft := do
  return { draft with current := ← draft.current.put? path key value }

end Draft

-- One line, or several if a value takes them, and the rest of the text.
def line? (limit : Nat) (draft : Draft) (text : List Char) : Option (Draft × List Char) :=
  match text with
  | '[' :: '[' :: rest => do
    let ((path, key), rest) ← key? rest
    match rest with
    | ']' :: ']' :: rest => return (← draft.startElement? path key, ← restOfLine? rest)
    | _ => none
  | '[' :: rest => do
    let ((path, key), rest) ← key? rest
    match rest with
    | ']' :: rest => return (← draft.startTable? path key, ← restOfLine? rest)
    | _ => none
  | '#' :: _ | '\n' :: _ | '\r' :: _ => do return (draft, ← restOfLine? text)
  | _ => do
    let ((path, key, value), rest) ← pair? (value? limit (depthLimit - 1)) text
    return (← draft.put? path key value, ← restOfLine? rest)

def lines? (limit : Nat) (draft : Draft) : (most : Nat) → List Char → Option Draft
  | 0, _ => none
  | most + 1, text =>
    match skipBlanks text with
    | [] => some draft
    | start => do
      let (draft, rest) ← line? limit draft start
      lines? limit draft most rest

-- The table that a document is. A byte order mark in front is ignored.
def parse? (document : String) : Option Entries := do
  let text :=
    match document.toList with
    | '\ufeff' :: rest => rest
    | text => text
  let limit := text.length
  let draft ← lines? limit {} (limit + 1) text
  draft.finish?

end AuditCollector.Toml
