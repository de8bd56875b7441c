import TileRules.CommandLine.Arguments
import TileRules.CommandLine.Outcome
import TileRules.Summary.Text

/-!
# Inspect — the command that decodes a table

The command loads an exported table, checks it against the manifest next to it if there is one, and
lists its reactions: those of all tile types or of one, registered ones only or every slot, as text
or as a document.
-/

namespace TileRules
namespace InspectCommand

def options : List CommandOption :=
  [⟨"input", some 'i', true⟩, ⟨"tile", some 't', true⟩, ⟨"json", none, false⟩,
    ⟨"all", none, false⟩]

/-- Reads a tile id: a decimal number with or without a sign that is a machine word. -/
def tileOfText? (text : String) : Option UInt32 :=
  match text.toList with
  | '-' :: '+' :: _ => none
  | '-' :: digits => (Text.unsigned? 0 (String.ofList digits)).map UInt32.ofNat
  | _ => (Text.unsigned? (UInt32.size - 1) text).map UInt32.ofNat

/-- What a command line asks for. -/
structure Request where
  input : String
  tile : Option UInt32
  asJson : Bool
  allSlots : Bool
  deriving Repr

/-- Reads the command line; a tile that is no number cannot be read. -/
def request? (arguments : List String) : Option Request := do
  let a ← Arguments.parse? options arguments
  let tile ← match a.value? "tile" with
    | some text => (tileOfText? text).map some
    | none => some none
  return {
    input := (a.value? "input").getD "rules.bin"
    tile
    asJson := a.has "json"
    allSlots := a.has "all" }

/-- The tile types to list. -/
def tilesOf : Option UInt32 → Except BuildError (List UInt32)
  | some tile => if tile.toNat < Layout.tileTypes then .ok [tile] else .error (.tileOutOfRange tile)
  | none => .ok ((List.range Layout.tileTypes).map UInt32.ofNat)

/-- The summaries of the slots to list. -/
def summaries (t : RuleTable) (tiles : List UInt32) (allSlots : Bool) :
    Except RuleError (List ReactionSummary) := do
  let found ← tiles.mapM fun tile =>
    let slots := if allSlots then Layout.reactionsPerTile else t.reactionCount tile
    (List.range slots).mapM fun slot => t.decodeReaction tile slot
  return found.flatten

/-- The last line of a listing as text. -/
def totalsLine (t : RuleTable) : String :=
  let used := t.counts.toList.countP (0 < ·)
  s!"{t.totalReactions} reaction(s) across {used} tile type(s)\n"

/-- The listing of a table. -/
def listing (r : Request) (t : RuleTable) : Except BuildError String := do
  let tiles ← tilesOf r.tile
  let found ← (summaries t tiles r.allSlots).mapError BuildError.rule
  if r.asJson then
    return Document.toText found ++ "\n"
  else
    return String.join (found.map ReactionSummary.text) ++ totalsLine t

/-- What the check against a manifest reports. -/
def checkedLine : Option Manifest → String
  | some m => s!"Checksum OK ({m.sha256})\n"
  | none => ""

/-- Runs the command. -/
def run (arguments : List String) : StateM Workspace Outcome := do
  match request? arguments with
  | none => return .usage
  | some r =>
      match ← (loadTable r.input).run with
      | .error failure =>
          return { code := 1, output := "", log := [], notes := "",
                   failure := some (.storage failure) }
      | .ok (table, manifest) =>
          let notes := checkedLine manifest
          match listing r table with
          | .error failure =>
              return { code := 1, output := "", log := [], notes, failure := some failure }
          | .ok output => return { code := 0, output, log := [], notes, failure := none }

end InspectCommand
end TileRules
