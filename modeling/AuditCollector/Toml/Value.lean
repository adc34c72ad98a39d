namespace AuditCollector.Toml

-- How a table came about. An inline table is complete where it stands. A table
-- with a header of its own is defined, one that only headers of inner tables
-- mention is implied, and one that dotted keys lead through is dotted.
inductive TableForm where
  | inline | defined | implied | dotted
deriving DecidableEq, Repr

-- A value of a document. What a float or a date says is of no use to us.
inductive Value where
  | string (text : String)
  | integer (n : Int)
  | boolean (b : Bool)
  | float
  | moment
  | array (elements : List Value)
  -- Tables that share one double-bracket header, the last one first.
  | tables (elements : List (List (String × Value)))
  | table (form : TableForm) (entries : List (String × Value))

-- The keys of a table, in no order that matters.
abbrev Entries := List (String × Value)

-- A reader of whole documents. It gives nothing for what is no document.
abbrev Parser := String → Option Entries

namespace Entries

def replace (entries : Entries) (key : String) (value : Value) : Entries :=
  entries.map fun entry => if entry.1 = key then (key, value) else entry

def erase (entries : Entries) (key : String) : Entries := entries.filter (·.1 ≠ key)

def addNew? (entries : Entries) (key : String) (value : Value) : Option Entries :=
  if (entries.lookup key).isSome then none else some ((key, value) :: entries)

-- Sets a dotted key. Only tables that dotted keys or inner headers made can be
-- gone through, and the last of them must be one that dotted keys made.
def put? (entries : Entries) (path : List String) (key : String) (value : Value) :
    Option Entries :=
  match path with
  | [] => entries.addNew? key value
  | name :: path =>
    match entries.lookup name with
    | none => do
      let inner ← put? [] path key value
      return (name, .table .dotted inner) :: entries
    | some (.table form inner) =>
      if form = .dotted ∨ (form = .implied ∧ path ≠ []) then do
        let inner ← put? inner path key value
        return entries.replace name (.table form inner)
      else none
    | some (.tables (last :: earlier)) =>
      if path = [] then none
      else do
        let inner ← put? last path key value
        return entries.replace name (.tables (inner :: earlier))
    | some _ => none

-- Does something to the table that a header path leads to, and makes the tables on
-- the way that are not there. In a list of tables the way goes through the last.
def modify? (entries : Entries) (path : List String) (change : Entries → Option Entries) :
    Option Entries :=
  match path with
  | [] => change entries
  | name :: path =>
    match entries.lookup name with
    | none => do
      let inner ← modify? [] path change
      return (name, .table .implied inner) :: entries
    | some (.table form inner) =>
      if form = .inline then none
      else do
        let inner ← modify? inner path change
        return entries.replace name (.table form inner)
    | some (.tables (last :: earlier)) => do
      let inner ← modify? last path change
      return entries.replace name (.tables (inner :: earlier))
    | some _ => none

def follow (entries : Entries) (path : List String) : Option Value :=
  match path with
  | [] => some (.table .defined entries)
  | [name] => entries.lookup name
  | name :: path =>
    match entries.lookup name with
    | some (.table form inner) => if form = .inline then none else follow inner path
    | some (.tables (last :: _)) => follow last path
    | _ => none

end Entries

end AuditCollector.Toml
