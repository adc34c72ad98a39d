import AuditCollector.FileSystem
import AuditCollector.Path
import AuditCollector.Text.Utf8

namespace AuditCollector

-- Where something is: the names on the way from the root.
abbrev Place := List Name

-- A name on the disk stands for a directory or for a file.
inductive Entry where
  | directory
  | file (number : Nat)
deriving DecidableEq, Repr

structure StoredFile where
  mode : Nat
  bytes : ByteArray

namespace StoredFile

instance : DecidableEq StoredFile := fun file file' =>
  decidable_of_decidable_of_iff (p := file.mode = file'.mode ∧ file.bytes.data = file'.bytes.data) <| by
    cases file
    cases file'
    simp only [StoredFile.mk.injEq, ByteArray.ext_iff]

-- What is in a file, which is all that we say about its bytes.
def content (file : StoredFile) : Bytes := file.bytes.data.toList

@[simp] theorem content_toByteArray (mode : Nat) (content : Bytes) :
    (StoredFile.mk mode content.toByteArray).content = content := by
  simp [StoredFile.content]

theorem size_bytes (file : StoredFile) : file.bytes.size = file.content.length := by
  simp [content]

-- Writes over what is at a position, with zeros up to it where nothing was. Writing
-- nothing changes nothing, wherever the position is.
def overwrite (file : StoredFile) (position : Nat) (data : Bytes) : StoredFile :=
  if data = [] then file
  else { file with bytes :=
      file.bytes.extract 0 position
        ++ (List.replicate (position - file.bytes.size) 0).toByteArray ++ data.toByteArray
        ++ file.bytes.extract (position + data.length) file.bytes.size }

@[simp] theorem mode_overwrite (file : StoredFile) (position : Nat) (data : Bytes) :
    (file.overwrite position data).mode = file.mode := by
  unfold overwrite
  split <;> rfl

@[simp] theorem overwrite_nil (file : StoredFile) (position : Nat) :
    file.overwrite position [] = file := rfl

theorem content_overwrite (file : StoredFile) (position : Nat) {data : Bytes} (h : data ≠ []) :
    (file.overwrite position data).content =
      file.content.take position ++ List.replicate (position - file.content.length) 0 ++ data
        ++ file.content.drop (position + data.length) := by
  simp only [overwrite, h, if_false, file.size_bytes, content,
    ByteArray.toList_data_append, ByteArray.data_extract, Array.toList_extract,
    List.data_toByteArray, List.extract_eq_take_drop, List.drop_zero, Nat.sub_zero]
  -- taking as much as is left takes everything
  rw [← List.length_drop, List.take_length]

end StoredFile

-- An open file and where the next write goes. It stays with the file whatever
-- becomes of the name.
structure Descriptor where
  number : Nat
  position : Nat
deriving DecidableEq, Repr

-- A disk without links. Files are numbered in the order they were made, and so
-- are the descriptors of open files.
structure Disk where
  entries : List (Place × Entry) := []
  files : List StoredFile := []
  descriptors : List Descriptor := []
  workingDirectory : Place := []
deriving DecidableEq

namespace Disk

-- The failures that looking up names can have.
abbrev busy : IoError := .os 16
abbrev notDirectory : IoError := .os 20
abbrev isDirectory : IoError := .os 21
abbrev invalid : IoError := .os 22
abbrev nameTooLong : IoError := .os 36
abbrev notEmpty : IoError := .os 39
abbrev badDescriptor : IoError := .os 9

def maxNameLength : Nat := 255
def maxPathLength : Nat := 4095

def byteLength (name : List Char) : Nat := (name.flatMap String.utf8EncodeChar).length

-- The root is a directory without an entry.
def entryAt? (disk : Disk) (place : Place) : Option Entry :=
  if place = [] then some .directory else disk.entries.lookup place

def enter (disk : Disk) (place : Place) (name : Name) : Except IoError Place :=
  if name = Path.here then .ok place
  else if name = Path.above then .ok place.dropLast
  else if maxNameLength < byteLength name then .error nameTooLong
  else
    match disk.entryAt? (place ++ [name]) with
    | none => .error .notFound
    | some (.file _) => .error notDirectory
    | some .directory => .ok (place ++ [name])

-- A path taken apart: the directory that its last name is looked up in, and that
-- name. A path that ends in a dot or at the root has a directory and no name.
structure Target where
  parent : Place
  name? : Option Name
  asksForDirectory : Bool
deriving DecidableEq, Repr

def Target.place (target : Target) : Place := target.parent ++ target.name?.toList

-- What a path comes to once the directory before its last name is known.
def Target.ofParent (path : String) (parent : Place) : Target :=
  let asksForDirectory := Path.asksForDirectory path
  match (Path.names path).getLast? with
  | none => { parent, name? := none, asksForDirectory }
  | some name =>
    if name = Path.here then { parent, name? := none, asksForDirectory }
    else if name = Path.above then { parent := parent.dropLast, name? := none, asksForDirectory }
    else { parent, name? := some name, asksForDirectory }

def startOf (disk : Disk) (path : String) : Place :=
  if Path.isAbsolute path then [] else disk.workingDirectory

def target (disk : Disk) (path : String) : Except IoError Target :=
  if path.toList.contains '\x00' then .error .nulInFileName
  else if path.isEmpty then .error .notFound
  else if maxPathLength < byteLength path.toList then .error nameTooLong
  else
    ((Path.names path).dropLast.foldlM disk.enter (disk.startOf path)).map
      (Target.ofParent path)

-- Looks up the last name of a path. That it is too long shows only now.
def lookUp (disk : Disk) (target : Target) : Except IoError (Option Entry) :=
  if target.name?.any (maxNameLength < byteLength ·) then .error nameTooLong
  else .ok (disk.entryAt? target.place)

def find (disk : Disk) (path : String) : Except IoError Entry := do
  let target ← disk.target path
  match ← disk.lookUp target with
  | none => throw .notFound
  | some .directory => return .directory
  | some (.file number) =>
    if target.asksForDirectory then throw notDirectory else return .file number

-- The size that is reported for a directory. It is never zero.
def directorySize : Nat := 4096

def size (disk : Disk) (path : String) : Except IoError Nat := do
  match ← disk.find path with
  | .directory => return directorySize
  | .file number => return (disk.files[number]?.map (·.bytes.size)).getD 0

def readFile (disk : Disk) (path : String) : Except IoError Bytes := do
  match ← disk.find path with
  | .directory => throw isDirectory
  | .file number => return (disk.files[number]?.map (·.content)).getD []

-- Puts a new file under a name that is free.
def addFile (disk : Disk) (place : Place) (mode : Nat) (content : Bytes) : Disk :=
  { disk with
    entries := disk.entries ++ [(place, .file disk.files.length)]
    files := disk.files ++ [{ mode, bytes := content.toByteArray }] }

def addDescriptor (disk : Disk) (number : Nat) : FileHandle × Disk :=
  (⟨disk.descriptors.length⟩,
    { disk with descriptors := disk.descriptors ++ [{ number, position := 0 }] })

def openFile (disk : Disk) (path : String) (mode : Nat) : Except IoError (FileHandle × Disk) := do
  let target ← disk.target path
  if target.asksForDirectory then throw isDirectory
  else
    match ← disk.lookUp target with
    | some .directory => throw isDirectory
    | some (.file number) => return disk.addDescriptor number
    | none => return (disk.addFile target.place mode []).addDescriptor disk.files.length

def setMode (disk : Disk) (file : FileHandle) (mode : Nat) : Except IoError Disk :=
  match disk.descriptors[file.number]? with
  | none => .error badDescriptor
  | some descriptor => .ok { disk with
      files := disk.files.modify descriptor.number fun stored => { stored with mode } }

def write (disk : Disk) (file : FileHandle) (data : Bytes) : Except IoError Disk :=
  match disk.descriptors[file.number]? with
  | none => .error badDescriptor
  | some descriptor => .ok { disk with
      files := disk.files.modify descriptor.number fun stored =>
        stored.overwrite descriptor.position data
      descriptors := disk.descriptors.set file.number
        { descriptor with position := descriptor.position + data.length } }

def flush (disk : Disk) (file : FileHandle) : Except IoError Unit :=
  match disk.descriptors[file.number]? with
  | none => .error badDescriptor
  | some _ => .ok ()

def isInside (place outer : Place) : Bool := outer.length < place.length && outer.isPrefixOf place

-- Takes an entry away, with all that is inside it.
def removeAt (disk : Disk) (place : Place) : Disk :=
  { disk with entries := disk.entries.filter fun entry =>
      entry.1 ≠ place && !isInside entry.1 place }

-- Gives an entry a new place, and all that is inside it with it.
def moveAt (disk : Disk) (old new : Place) : Disk :=
  { disk with entries := disk.entries.map fun entry =>
      if entry.1 = old || isInside entry.1 old then (new ++ entry.1.drop old.length, entry.2)
      else entry }

-- Moves what the name `source` stands for to the name `destination`. What that stood
-- for is replaced, and nothing happens if both names are the same.
def relocate (disk : Disk) (source destination : Target) (moved : Entry)
    (replaced : Option Entry) : Except IoError Disk :=
  if moved ≠ .directory ∧ (source.asksForDirectory || destination.asksForDirectory) then
    .error notDirectory
  else if moved = .directory ∧ isInside destination.place source.place then .error invalid
  else if isInside source.place destination.place then .error notEmpty
  else if source.place = destination.place then .ok disk
  else
    match moved, replaced with
    | _, none => .ok (disk.moveAt source.place destination.place)
    | .directory, some (.file _) => .error notDirectory
    | .file _, some .directory => .error isDirectory
    | .file _, some (.file _) =>
      .ok ((disk.removeAt destination.place).moveAt source.place destination.place)
    | .directory, some .directory =>
      if disk.entries.any fun entry => isInside entry.1 destination.place then .error notEmpty
      else .ok ((disk.removeAt destination.place).moveAt source.place destination.place)

-- Renames a file or a directory. Both paths are taken apart before either name is
-- looked up, and the old name comes first.
def rename (disk : Disk) (old new : String) : Except IoError Disk := do
  if new.toList.contains '\x00' then throw .nulInFileName
  else
    let source ← disk.target old
    let destination ← disk.target new
    if source.name?.isNone || destination.name?.isNone then throw busy
    else
      match ← disk.lookUp source with
      | none => throw .notFound
      | some moved => disk.relocate source destination moved (← disk.lookUp destination)

def empty : Disk where
  entries := [([['w', 'o', 'r', 'k']], .directory)]
  workingDirectory := [['w', 'o', 'r', 'k']]

def putFile (disk : Disk) (path : String) (mode : Nat) (content : Bytes) : Disk :=
  match disk.target path with
  | .error _ => disk
  | .ok target =>
    match disk.lookUp target with
    | .error _ | .ok (some .directory) => disk
    | .ok (some (.file number)) =>
      { disk with files := disk.files.set number { mode, bytes := content.toByteArray } }
    | .ok none => disk.addFile target.place mode content

def makeDirectory (disk : Disk) (path : String) : Disk :=
  match disk.target path with
  | .error _ => disk
  | .ok target =>
    match disk.lookUp target with
    | .error _ | .ok (some _) => disk
    | .ok none => { disk with entries := disk.entries ++ [(target.place, .directory)] }

def remove (disk : Disk) (path : String) : Disk :=
  match disk.target path with
  | .error _ => disk
  | .ok target => disk.removeAt target.place

-- One line of a listing: the path from the working directory, and the file there.
structure Listed where
  path : String
  file : Option StoredFile
deriving DecidableEq

def nameOf (place : Place) : String := String.ofList (['/'].intercalate place)

-- Everything under the working directory, in the order of the paths.
def listing (disk : Disk) : List Listed :=
  let listed := disk.entries.filterMap fun (place, entry) =>
    if isInside place disk.workingDirectory then
      let path := nameOf (place.drop disk.workingDirectory.length)
      match entry with
      | .directory => some { path, file := none }
      | .file number => (disk.files[number]?).map fun file => { path, file := some file }
    else none
  listed.mergeSort fun a b => a.path ≤ b.path

end Disk

end AuditCollector
