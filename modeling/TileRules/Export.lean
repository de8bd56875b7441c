import TileRules.Manifest
import TileRules.Workspace

/-!
# Export — tables and manifests in files

An evaluator reads a table as 16384 little-endian words in table order. A file holds these bytes as
they are or packed into a gzip member, by whatever packer there is; a reader tells the two apart by
the first two bytes of the file.

- `writeTable` and `readTable` move a table out and in; the counts of a table that is read are
  inferred from its blocks;
- `exportTable` writes a table and, where asked to, the manifest next to it;
- `verifyManifest` checks a file against a manifest and restores the recorded counts;
- `loadTable` reads a table with its manifest if it has one, and without otherwise.
-/

namespace TileRules

open Layout

/-! ## Documents in files -/

def readDocument {α : Type} [Document α] (path : String) : Running StorageError α := do
  let text ← ((Running.readText path).mapError StorageError.fileSystem).doing
    s!"reading JSON from {Text.quoted path}"
  Running.ofExcept (Document.ofText text)

def writeDocument {α : Type} [Document α] (path : String) (a : α) : Running StorageError Unit :=
  ((Running.writeBytes path (FileSystem.textBytes (Document.toText a))).mapError
    StorageError.fileSystem).doing s!"writing JSON to {Text.quoted path}"

/-! ## Tables in files -/

/-- Bytes of a table. -/
def tableBytes : Nat := tableCells * 4

/-- The bytes of a file that holds a table, compressed or not. -/
def fileBytes [Gzip.Packer] (bytes : List UInt8) (compress : Bool) : List UInt8 :=
  if compress then Gzip.Packer.pack bytes else bytes

def writeTable [Gzip.Packer] (path : String) (table : RuleTable) (compress : Bool) :
    Running StorageError Unit := do
  let bytes := table.toBytes
  ((Running.writeBytes path (fileBytes bytes compress)).mapError StorageError.fileSystem).doing
    s!"writing table to {Text.quoted path}"
  Running.report (.tableWritten path compress bytes.length)

/-- The table bytes in a file; one that starts like a gzip member is decompressed. -/
def decompress (file : List UInt8) : Except StorageError (List UInt8) :=
  if Gzip.isMember file then
    (Gzip.decode file).mapError fun fault => .compression (.gzip fault)
  else
    .ok file

/-- The words of little-endian bytes, four for each; a rest of fewer than four is left out. -/
def wordsOfBytes (found : Array UInt32) : List UInt8 → Array UInt32
  | a :: b :: c :: d :: rest =>
      let word := a.toUInt32 ||| (b.toUInt32 <<< 8) ||| (c.toUInt32 <<< 16) ||| (d.toUInt32 <<< 24)
      wordsOfBytes (found.push word) rest
  | _ => found

/-- The words of a file that holds a table. -/
def wordsOfFile (path : String) (file : List UInt8) : Except StorageError (Array UInt32) := do
  let bytes ← decompress file
  if bytes.length = tableBytes then
    return wordsOfBytes #[] bytes
  else
    throw (.validation (.tableLength path bytes.length tableBytes))

def readWords (path : String) : Running StorageError (Array UInt32) := do
  let file ← ((Running.readBytes path).mapError StorageError.fileSystem).doing
    s!"reading table {Text.quoted path}"
  Running.ofExcept (wordsOfFile path file)

/-- Reads a table and infers its counts. -/
def readTable (path : String) : Running StorageError RuleTable := do
  let words ← readWords path
  Running.ofExcept ((RuleTable.fromWords words).mapError .rule)

/-! ## Tables with manifests -/

/-- Writes a table and, where asked to, its manifest. Gives the manifest either way. -/
def exportTable [Gzip.Packer] (path : String) (table : RuleTable)
    (compress writeManifest : Bool) (configFingerprint : Option String) :
    Running StorageError Manifest := do
  writeTable path table compress
  let manifest := Manifest.describe table compress configFingerprint (← Running.now)
  if writeManifest then
    writeDocument (manifestPath path) manifest
    Running.report (.manifestWritten (manifestPath path))
  return manifest

/-- The bytes of words, lowest byte first. -/
def bytesOfWords (words : Array UInt32) : List UInt8 :=
  words.toList.flatMap RuleTable.wordBytes

/-- Checks the words of a file against a manifest: the checksum, the shape, and the counts. -/
def checkManifest (words : Array UInt32) (m : Manifest) : Except StorageError RuleTable :=
  let actual := checksum (bytesOfWords words)
  if actual ≠ m.sha256 then
    .error (.validation (.checksumMismatch m.sha256 actual))
  else if m.width ≠ tableWidth ∨ m.height ≠ tableHeight then
    .error (.validation (.tableShape m.width m.height))
  else
    (RuleTable.fromWordsWithCounts words m.reactionCounts).mapError .rule

/-- Reads a table that a manifest describes, with the counts of the manifest. -/
def verifyManifest (path : String) (m : Manifest) : Running StorageError RuleTable := do
  let words ← readWords path
  Running.ofExcept (checkManifest words m)

/-- Reads a table, checked against the manifest next to it if there is one. -/
def loadTable (path : String) : Running StorageError (RuleTable × Option Manifest) := do
  if ← Running.contains (manifestPath path) then
    let manifest : Manifest ← readDocument (manifestPath path)
    let table ← verifyManifest path manifest
    return (table, some manifest)
  else
    let table ← readTable path
    return (table, none)

end TileRules
