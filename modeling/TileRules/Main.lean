import TileRules.CommandLine.Compile
import TileRules.CommandLine.Inspect

/-!
# Main — the commands on a real directory

The first argument names the command, `compile` or `inspect`. A command is a function of a
workspace; here the workspace is filled with the files that the command asks for, and what the
command has written is written to the disk.
-/

namespace TileRules

/-- A command with the paths it may read or write, which may depend on files read before. -/
structure Program where
  paths : List (Workspace → List String)
  run : StateM Workspace Outcome

namespace Program

def withManifest (path : String) : List String :=
  [path, manifestPath path]

def compile (environment : CompileCommand.Environment) (arguments : List String) : Program :=
  let options := Arguments.parse? CompileCommand.options arguments
  { paths :=
      [fun _ => (options.map CompileCommand.configPath).toList,
        fun w => ((CompileCommand.outputPath? arguments).run w).1.toList.flatMap withManifest]
    run := CompileCommand.run environment arguments }

def inspect (arguments : List String) : Program :=
  { paths :=
      [fun _ => (InspectCommand.request? arguments).toList.flatMap fun r => withManifest r.input]
    run := InspectCommand.run arguments }

end Program

/-! ## The disk -/

/-- A path of names as the disk writes it. -/
def diskPath (path : FilePath) : String :=
  "/" ++ "/".intercalate path

/-- Puts what the disk holds at a path of names into the files. -/
def loadEntry (files : FileSystem) (path : FilePath) : IO FileSystem := do
  let place := (← IO.currentDir) / diskPath path
  if ← place.isDir then
    return files.insert path .directory
  else if ← place.pathExists then
    let bytes ← IO.FS.readBinFile place
    return files.insert path (.file bytes.data.toList)
  else
    return files

/-- Loads a path and the directories above it. -/
def loadPath (files : FileSystem) (path : String) : IO FileSystem := do
  let names := files.resolve path
  (List.range names.length).foldlM (fun files n => loadEntry files (names.take (n + 1))) files

/-- Writes the files that a run has changed. -/
def saveFiles (before after : FileSystem) : IO Unit := do
  for (path, entry) in after.entries do
    match entry with
    | .file bytes =>
        if before.entry? path != some entry then
          IO.FS.writeBinFile (diskPath path) ⟨bytes.toArray⟩
    | .directory => pure ()

/-- Seconds from 1970 to the year 2000. -/
def secondsToEpoch : Nat := 946684800

/-- The time of day, which the disk gives to a new file. -/
def timeOfDay : IO Timestamp :=
  IO.FS.withTempFile fun _ path => do
    let modified := (← path.metadata).modified
    return Timestamp.afterEpoch (modified.sec.toNat - secondsToEpoch) modified.nsec.toNat

/-- What a command line that cannot be read gets to read. -/
def usageText : String :=
  "usage: (compile | inspect) [options]\n"

/-- Runs a program and gives its exit code. -/
def execute (p : Program) : IO UInt32 := do
  let home := FileSystem.namesOf (← IO.currentDir).toString
  let start : Workspace :=
    { files := { entries := [], home }, clock := ← timeOfDay, events := #[] }
  let loaded ← p.paths.foldlM
    (fun w paths => do
      let files ← (paths w).foldlM loadPath w.files
      return { w with files })
    start
  let (outcome, after) := p.run.run loaded
  saveFiles loaded.files after.files
  for line in outcome.log do
    IO.println line
  IO.print outcome.output
  IO.eprint (if outcome.code = 2 then usageText else outcome.errorText)
  return UInt32.ofNat outcome.code

end TileRules

open TileRules

def main (arguments : List String) : IO UInt32 := do
  match arguments with
  | "compile" :: rest =>
      let logFilter ← IO.getEnv "RUST_LOG"
      execute (.compile { logFilter } rest)
  | "inspect" :: rest => execute (.inspect rest)
  | _ =>
      IO.eprint usageText
      return 2
