namespace AuditCollector

-- One name in a path, without slashes.
abbrev Name := List Char

namespace Path

-- The stretches between the slashes, empty ones included.
def splitAtSlashes : List Char → List Name
  | [] => [[]]
  | c :: rest =>
    if c = '/' then [] :: splitAtSlashes rest
    else
      match splitAtSlashes rest with
      | name :: names => (c :: name) :: names
      | [] => [[c]]

-- The names along a path. Repeated and trailing slashes add none.
def names (path : String) : List Name := (splitAtSlashes path.toList).filter (· ≠ [])

def isAbsolute (path : String) : Bool := path.toList.head? == some '/'

-- A slash at the end asks for a directory.
def asksForDirectory (path : String) : Bool := path.toList.getLast? == some '/'

def here : Name := ['.']

def above : Name := ['.', '.']

-- What a path is made of when two paths are compared: where it starts, and the
-- names along it. A dot counts only at the start of a relative path.
structure Components where
  absolute : Bool
  startsHere : Bool
  names : List Name
deriving DecidableEq, Repr

def components (path : String) : Components where
  absolute := isAbsolute path
  startsHere := !isAbsolute path && (names path).head? == some here
  names := (names path).filter (· ≠ here)

end Path

end AuditCollector
