/-!
# Files — directories and files as a value

A tree of files below one directory is a value that maps paths to directories and to files of bytes.
A path is a text of names between slashes; it is resolved name by name, so that the error of a path
that does not exist says what is wrong with it.

- `FileSystem.readBytes`, `readText` and `writeBytes` are the operations of a program on its files;
- `FileSystem.contains` holds of the paths that lead to a file or a directory;
- `FileError.message` is the text of the operating system.
-/

namespace TileRules

/-- Why a file cannot be read or written. -/
inductive FileError
  | notFound
  | notDirectory
  | isDirectory
  | nameTooLong
  | nameHasNul
  | notText
  | alreadyExists
  | other (detail : String)
  deriving DecidableEq, Repr

def FileError.message : FileError → String
  | .notFound => "No such file or directory (os error 2)"
  | .alreadyExists => "File exists (os error 17)"
  | .notDirectory => "Not a directory (os error 20)"
  | .isDirectory => "Is a directory (os error 21)"
  | .nameTooLong => "File name too long (os error 36)"
  | .nameHasNul => "file name contained an unexpected NUL byte"
  | .notText => "stream did not contain valid UTF-8"
  | .other detail => detail

/-- What a path leads to. -/
inductive FileEntry
  | directory
  | file (bytes : List UInt8)
  deriving DecidableEq, Repr

/-- The names that lead from the root to an entry. -/
abbrev FilePath := List String

/-- Everything below one directory, which is itself the empty path. -/
structure FileSystem where
  entries : List (FilePath × FileEntry)
  /-- Where paths begin that do not begin with a slash. -/
  home : FilePath := []
  deriving Repr

namespace FileSystem

def empty : FileSystem :=
  { entries := [] }

/-! ## Entries -/

/-- The entry at a path of names. -/
def entry? (fs : FileSystem) (path : FilePath) : Option FileEntry :=
  if path = [] then some .directory else fs.entries.lookup path

/-- Puts an entry in place of whatever is at its path. -/
def insert (fs : FileSystem) (path : FilePath) (e : FileEntry) : FileSystem :=
  { fs with entries := (path, e) :: fs.entries.filter (·.1 != path) }

/-- Takes the entry at a path away, and everything below it. -/
def erase (fs : FileSystem) (path : FilePath) : FileSystem :=
  { fs with entries := fs.entries.filter fun (p, _) => !path.isPrefixOf p }

/-- Whether one path comes before another: names are compared one by one, so an entry is followed
by everything below it. -/
def comesBefore : FilePath → FilePath → Bool
  | [], _ => true
  | _ :: _, [] => false
  | a :: p, b :: q => if a = b then comesBefore p q else decide (a < b)

/-- All entries in the order of their paths. -/
def listing (fs : FileSystem) : List (FilePath × FileEntry) :=
  fs.entries.mergeSort fun a b => comesBefore a.1 b.1

/-! ## Paths -/

/-- The longest name, in bytes. -/
def longestName : Nat := 255

/-- The longest path, in bytes. -/
def longestPath : Nat := 4095

/-- The texts between the slashes. -/
def betweenSlashes : List Char → List (List Char)
  | [] => [[]]
  | c :: rest =>
      if c = '/' then [] :: betweenSlashes rest
      else
        match betweenSlashes rest with
        | [] => [[c]]
        | name :: names => (c :: name) :: names

/-- The names of a path; empty ones do not count. -/
def namesOf (path : String) : List String :=
  ((betweenSlashes path.toList).filter (· != [])).map String.ofList

/-- The directory where a path begins. -/
def start (fs : FileSystem) (path : String) : FilePath :=
  if path.toList.head? = some '/' then [] else fs.home

/-- The names of a path from the root, where nothing is checked. -/
def resolve (fs : FileSystem) (path : String) : FilePath :=
  (namesOf path).foldl
    (fun place name =>
      if name = "." then place else if name = ".." then place.dropLast else place ++ [name])
    (fs.start path)

/-- Whether a path can only lead to a directory: it ends in a slash or in a dot name. -/
def asksDirectory (path : String) : Bool :=
  path.toList.getLast? == some '/' ||
    match (namesOf path).getLast? with
    | some name => name == "." || name == ".."
    | none => true

/-- Checks what no path may be. -/
def checkPath (path : String) : Except FileError Unit :=
  if path.toList.contains '\x00' then .error .nameHasNul
  else if path = "" then .error .notFound
  else if longestPath < path.utf8ByteSize then .error .nameTooLong
  else .ok ()

/-- Follows names from a directory on; each of them has to lead to a directory. -/
def enter (fs : FileSystem) (place : FilePath) : List String → Except FileError FilePath
  | [] => .ok place
  | name :: rest =>
      if name = "." then fs.enter place rest
      else if name = ".." then fs.enter place.dropLast rest
      else if longestName < name.utf8ByteSize then .error .nameTooLong
      else
        match fs.entry? (place ++ [name]) with
        | none => .error .notFound
        | some (.file _) => .error .notDirectory
        | some .directory => fs.enter (place ++ [name]) rest

/-- The directory that the names of a path before its last one lead to. -/
def parent (fs : FileSystem) (path : String) : Except FileError FilePath := do
  checkPath path
  fs.enter (fs.start path) (namesOf path).dropLast

/-- The place of a path: its last name in the directory that the names before it lead to. -/
def place (fs : FileSystem) (path : String) : Except FileError FilePath := do
  let directory ← fs.parent path
  match (namesOf path).getLast? with
  | none => return directory
  | some name =>
      if name = "." then return directory
      else if name = ".." then return directory.dropLast
      else if longestName < name.utf8ByteSize then throw .nameTooLong
      else return directory ++ [name]

/-- The entry that a path leads to. -/
def find (fs : FileSystem) (path : String) : Except FileError FileEntry := do
  let place ← fs.place path
  match fs.entry? place with
  | none => throw .notFound
  | some .directory => return .directory
  | some (.file bytes) => if asksDirectory path then throw .notDirectory else return .file bytes

/-! ## Operations -/

/-- Whether a path leads to a file or a directory. -/
def contains (fs : FileSystem) (path : String) : Bool :=
  match fs.find path with
  | .ok _ => true
  | .error _ => false

/-- The bytes of a file. -/
def readBytes (fs : FileSystem) (path : String) : Except FileError (List UInt8) := do
  match ← fs.find path with
  | .directory => throw .isDirectory
  | .file bytes => return bytes

/-- The text of a file, which has to be UTF-8. -/
def readText (fs : FileSystem) (path : String) : Except FileError String := do
  let bytes ← fs.readBytes path
  match String.fromUTF8? ⟨bytes.toArray⟩ with
  | some text => return text
  | none => throw .notText

/-- Writes a file, new or in place of the one at the path. A path that asks for a directory is
refused before its last name is looked at. -/
def writeBytes (fs : FileSystem) (path : String) (bytes : List UInt8) :
    Except FileError FileSystem := do
  let _ ← fs.parent path
  if asksDirectory path then throw .isDirectory
  else
    let place ← fs.place path
    match fs.entry? place with
    | some .directory => throw .isDirectory
    | _ => return fs.insert place (.file bytes)

/-- The bytes of a text. -/
def textBytes (text : String) : List UInt8 :=
  text.toUTF8.data.toList

def writeText (fs : FileSystem) (path text : String) : Except FileError FileSystem :=
  fs.writeBytes path (textBytes text)

/-- Makes a directory below another one for each of the names. One that is there stays as it is. -/
def makeBelow (fs : FileSystem) (place : FilePath) : List String → Except FileError FileSystem
  | [] => .ok fs
  | name :: rest =>
      if name = "." then fs.makeBelow place rest
      else if name = ".." then fs.makeBelow place.dropLast rest
      else if longestName < name.utf8ByteSize then .error .nameTooLong
      else
        match fs.entry? (place ++ [name]) with
        | none => (fs.insert (place ++ [name]) .directory).makeBelow (place ++ [name]) rest
        | some .directory => fs.makeBelow (place ++ [name]) rest
        | some (.file _) => .error (if rest = [] then .alreadyExists else .notDirectory)

/-- Makes a directory and all that are missing above it. -/
def makeDirectories (fs : FileSystem) (path : String) : Except FileError FileSystem := do
  checkPath path
  fs.makeBelow (fs.start path) (namesOf path)

/-- Takes a file away, or a directory with everything in it. -/
def remove (fs : FileSystem) (path : String) : Except FileError FileSystem := do
  let _ ← fs.find path
  return fs.erase (← fs.place path)

end FileSystem
end TileRules
