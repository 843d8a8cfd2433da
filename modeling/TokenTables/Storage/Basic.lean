import TokenTables.Storage.FileAccess
import TokenTables.Storage.Path

/-!
Files held in memory: a tree of directories as a list of the places that exist. A place is given
by the names on the way to it from the current directory. Paths are followed name by name, and
every name but the last has to lead to a directory. Nothing is known of the places above the
current directory.
-/

namespace TokenTables

/-- What exists at a place. A file whose bytes are not UTF-8 has no text. -/
inductive Entry
  | directory
  | file (text : Option String)
  deriving DecidableEq, Repr

abbrev Place := List String

structure Storage where
  entries : List (Place × Entry) := []
  deriving Repr

namespace Storage

def entry? (storage : Storage) (place : Place) : Option Entry :=
  if place = [] then some .directory else storage.entries.lookup place

def set (storage : Storage) (place : Place) (entry : Entry) : Storage :=
  ⟨(place, entry) :: storage.entries.filter fun (other, _) => other != place⟩

def names (path : String) : List String := (Path.segments path.toList).map String.ofList

def enter (storage : Storage) (place : Place) : Except FileError Unit :=
  match storage.entry? place with
  | some .directory => .ok ()
  | some (.file _) => .error .notADirectory
  | none => .error .notFound

def maxNameBytes : Nat := 255

def follow (storage : Storage) (start : Place) : List String → Except FileError Place
  | [] => .ok start
  | name :: rest => do
    storage.enter start
    if name = "" ∨ name = "." then follow storage start rest
    else if name = ".." then
      if start = [] then .error .notFound else follow storage start.dropLast rest
    else if maxNameBytes < name.utf8ByteSize then .error .nameTooLong
    else follow storage (start ++ [name]) rest

def locate (storage : Storage) (path : String) : Except FileError Place :=
  if path.toList.contains '\x00' then .error .nulInName
  else if path.isEmpty || Path.isAbsolute path then .error .notFound
  else storage.follow [] (names path)

def readText (storage : Storage) (path : String) : Except FileError String := do
  match storage.entry? (← storage.locate path) with
  | some (.file (some text)) => return text
  | some (.file none) => throw .notUtf8
  | some .directory => throw .isADirectory
  | none => throw .notFound

def fileExists (storage : Storage) (path : String) : Bool :=
  match storage.locate path with
  | .ok place => (storage.entry? place).isSome
  | .error _ => false

/-- The directory that the last name of a path lies in, and that name. A path that ends in a slash
or in a point names a directory. -/
def target (storage : Storage) (path : String) : Except FileError (Place × Option String) :=
  if path.toList.contains '\x00' then .error .nulInName
  else if path.isEmpty || Path.isAbsolute path then .error .notFound
  else do
    let kept := ((names path).reverse.dropWhile (·.isEmpty)).reverse
    let directory ← storage.follow [] kept.dropLast
    storage.enter directory
    match kept.getLast? with
    | some name =>
      if name = "." ∨ name = ".." ∨ kept ≠ names path then return (directory, none)
      else if maxNameBytes < name.utf8ByteSize then throw .nameTooLong
      else return (directory, some name)
    | none => return (directory, none)

def writeText (storage : Storage) (path text : String) : Except FileError Storage := do
  match ← storage.target path with
  | (_, none) => throw .isADirectory
  | (directory, some name) =>
    let place := directory ++ [name]
    if storage.entry? place = some .directory then throw .isADirectory
    else return storage.set place (.file (some text))

def makeDirectory (storage : Storage) (names : List String) : Except FileError Storage := do
  let directory ← storage.follow [] names.dropLast
  storage.enter directory
  match names.getLast? with
  | none => throw .alreadyExists
  | some name =>
    if name = ".." then throw .alreadyExists
    else if maxNameBytes < name.utf8ByteSize then throw .nameTooLong
    else if (storage.entry? (directory ++ [name])).isSome then throw .alreadyExists
    else return storage.set (directory ++ [name]) .directory

def isDirectory (storage : Storage) (names : List String) : Bool :=
  match storage.follow [] names with
  | .ok place => storage.entry? place = some .directory
  | .error _ => false

/-- Creates a directory and, where names before the last are missing, first those. The names come
last one first. What has been created stays also if a later step fails. -/
def makeChain (storage : Storage) : List String → Except FileError Unit × Storage
  | [] => (.ok (), storage)
  | name :: above =>
    let names := (name :: above).reverse
    let settle (storage : Storage) (error : FileError) : Except FileError Unit × Storage :=
      if storage.isDirectory names then (.ok (), storage) else (.error error, storage)
    match storage.makeDirectory names with
    | .ok created => (.ok (), created)
    | .error .notFound =>
      match makeChain storage above with
      | (.error error, left) => (.error error, left)
      | (.ok (), prepared) =>
        match prepared.makeDirectory names with
        | .ok created => (.ok (), created)
        | .error error => settle prepared error
    | .error error => settle storage error

def makeDirectories (storage : Storage) (path : String) : Except FileError Unit × Storage :=
  if path.toList.contains '\x00' then (.error .nulInName, storage)
  else if Path.isAbsolute path then (.error .notFound, storage)
  else
    storage.makeChain ((names path).filter fun name => name != "" && name != ".").reverse

def changes (before after : Storage) : List (Place × String) :=
  after.entries.filterMap fun (place, entry) =>
    match entry with
    | .file (some text) => if before.entry? place = some entry then none else some (place, text)
    | _ => none

instance : FileAccess (StateM Storage) where
  readText path := return (← get).readText path
  fileExists path := return (← get).fileExists path
  makeDirectories path := modifyGet fun storage => storage.makeDirectories path
  writeText path text := modifyGet fun storage =>
    match storage.writeText path text with
    | .ok written => (.ok (), written)
    | .error error => (.error error, storage)

end Storage

end TokenTables
