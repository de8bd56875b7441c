import TileRules.Flat
import TileRules.Text.Lowercase
import TileRules.Text.Number

/-!
# Event — what a run reports about itself

Building, writing and exporting a table report events. An event has a level, the component that
reports it, a message and named fields; `Event.line` is the event as one line of a log.
-/

namespace TileRules

/-! ## Levels -/

/-- How much an event matters, the most important first. -/
inductive Level
  | error
  | warn
  | info
  | debug
  | trace
  deriving DecidableEq, Repr

namespace Level

def all : List Level :=
  [.error, .warn, .info, .debug, .trace]

/-- Counts from one, for errors, up to five. -/
def rank : Level → Nat
  | .error => 1
  | .warn => 2
  | .info => 3
  | .debug => 4
  | .trace => 5

def name : Level → String
  | .error => "ERROR"
  | .warn => "WARN"
  | .info => "INFO"
  | .debug => "DEBUG"
  | .trace => "TRACE"

/-- Reads a level by its name, in any case, or by its rank. -/
def ofText? (text : String) : Option Level :=
  match Text.unsigned? (UInt64.size - 1) text with
  | some rank => all.find? (·.rank == rank)
  | none => all.find? fun level => Text.sameIgnoringCase level.name text

end Level

/-! ## Components -/

/-- A part of the program that reports events. -/
inductive Component
  | flattening
  | tables
  | ruleSets
  | configuration
  | exports
  | application
  deriving DecidableEq, Repr

namespace Component

def name : Component → String
  | .flattening => "tile_rules::flat"
  | .tables => "tile_rules::table"
  | .ruleSets => "tile_rules::rule_set"
  | .configuration => "tile_rules::config"
  | .exports => "tile_rules::export"
  | .application => "tile_rules::app"

end Component

/-! ## Events -/

inductive Event
  /-- A tree lost operators below its third level. -/
  | treeTruncated (truncated depth : Nat)
  | reactionRegistered (tile : UInt32) (slot : Nat) (result : UInt32) (bias : Int)
      (conditions : Nat)
  | worldCompiled (reactions : Nat) (policy : DepthPolicy)
  | reactionsOfTile (tile reactions : Nat)
  | tableWritten (path : String) (compress : Bool) (bytes : Nat)
  | manifestWritten (path : String)
  | tableExported (output : String) (reactions : Nat) (checksum : String)
  | configMissing (path : String)
  deriving DecidableEq, Repr

namespace Event

def level : Event → Level
  | .treeTruncated _ _ => .warn
  | .worldCompiled _ _ | .tableWritten _ _ _ | .tableExported _ _ _ => .info
  | .reactionRegistered _ _ _ _ _ | .reactionsOfTile _ _ | .manifestWritten _
  | .configMissing _ => .debug

def component : Event → Component
  | .treeTruncated _ _ => .flattening
  | .reactionRegistered _ _ _ _ _ => .tables
  | .worldCompiled _ _ => .ruleSets
  | .configMissing _ => .configuration
  | .tableWritten _ _ _ | .manifestWritten _ => .exports
  | .reactionsOfTile _ _ | .tableExported _ _ _ => .application

def message : Event → String
  | .treeTruncated _ _ => "Operator found at leaf level, using always-false leaf"
  | .reactionRegistered _ _ _ _ _ => "Reaction registered"
  | .worldCompiled _ _ => "World rule set compiled"
  | .reactionsOfTile _ _ => "Tile reactions"
  | .tableWritten _ _ _ => "Rule table written"
  | .manifestWritten _ => "Manifest written"
  | .tableExported _ _ _ => "Rule table exported"
  | .configMissing _ => "Config file not found, using defaults"

/-- The named fields, in the order in which a log shows them. -/
def fields : Event → List (String × String)
  | .treeTruncated truncated depth =>
      [("truncated", toString truncated), ("depth", toString depth)]
  | .reactionRegistered tile slot result bias conditions =>
      [("tile", toString tile), ("slot", toString slot), ("result", toString result),
        ("bias", toString bias), ("conditions", toString conditions)]
  | .worldCompiled reactions policy =>
      [("reactions", toString reactions), ("policy", policy.label)]
  | .reactionsOfTile tile reactions =>
      [("tile", toString tile), ("reactions", toString reactions)]
  | .tableWritten path compress bytes =>
      [("path", path), ("compress", toString compress), ("bytes", toString bytes)]
  | .manifestWritten path => [("path", path)]
  | .tableExported output reactions checksum =>
      [("output", output), ("reactions", toString reactions), ("sha256", checksum)]
  | .configMissing path => [("path", path)]

/-- Whether an event has a field of this name. The message is a field too, and an export reports the
time that it took, which no line shows. -/
def hasField (e : Event) (name : String) : Bool :=
  name == "message" || e.fields.any (·.1 == name) ||
    match e with
    | .tableExported _ _ _ => name == "duration_ms"
    | _ => false

/-- The event as one line: level, message, and the fields as `name=value`. -/
def line (e : Event) : String :=
  " ".intercalate (e.level.name :: e.message :: e.fields.map fun (name, value) =>
    name ++ "=" ++ value)

end Event
end TileRules
