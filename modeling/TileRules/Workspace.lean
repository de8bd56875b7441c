import TileRules.Authoring
import TileRules.StorageError
import TileRules.Timestamp

/-!
# Workspace — what a run finds and leaves behind

A run works on a workspace: the files below its directory, a clock, and the events reported so far.
What a run has done to its workspace stays done when a later step fails.

- `Running ε` is a step that may fail with `ε`;
- `Running.readBytes`, `readText` and `writeBytes` are its file operations;
- `Running.now` reads the clock, and every reading is later than the one before.
-/

namespace TileRules

structure Workspace where
  files : FileSystem
  /-- What the next reading of the clock gives. -/
  clock : Timestamp
  events : Array Event

namespace Workspace

/-- An empty directory. -/
def empty : Workspace :=
  { files := FileSystem.empty, clock := Timestamp.epoch, events := #[] }

end Workspace

/-- A step of a run. -/
abbrev Running (ε : Type) := ExceptT ε (StateM Workspace)

namespace Running

variable {α ε δ : Type}

def ofExcept : Except ε α → Running ε α
  | .ok a => pure a
  | .error e => throw e

/-- The same step with its failure put in other words. -/
def mapError (f : ε → δ) (step : Running ε α) : Running δ α :=
  ExceptT.mk do
    match ← step.run with
    | .ok a => return .ok a
    | .error e => return .error (f e)

/-- The same step with words on what was being done, for its failure. -/
def doing (what : String) (step : Running StorageError α) : Running StorageError α :=
  step.mapError (.context what)

/-! ## Events and time -/

def report (e : Event) : Running ε Unit :=
  modify fun w => { w with events := w.events.push e }

/-- A step of rule authoring; its events are reported. -/
def ofAuthoring (build : Authoring α) : Running RuleError α :=
  ExceptT.mk do
    let w ← get
    let (outcome, events) := build.run w.events
    set { w with events }
    return outcome

def now : Running ε Timestamp :=
  modifyGet fun w => (w.clock, { w with clock := w.clock.later })

/-! ## Files -/

def files : Running ε FileSystem :=
  return (← get).files

def contains (path : String) : Running ε Bool :=
  return (← files).contains path

def readBytes (path : String) : Running FileError (List UInt8) := do
  ofExcept ((← files).readBytes path)

def readText (path : String) : Running FileError String := do
  ofExcept ((← files).readText path)

def writeBytes (path : String) (bytes : List UInt8) : Running FileError Unit := do
  let files ← ofExcept ((← files).writeBytes path bytes)
  modify fun w => { w with files }

end Running
end TileRules
