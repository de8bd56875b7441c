/-!
# Error — why a rule table cannot be built

Every failure of rule authoring is a defect of the rules and not of a simulation. There are four
kinds; three of them carry a cause, and the wording of each cause is written in one place.

- `RuleError` with its causes `RangeFault`, `CapacityFault` and `ArgumentFault`;
- `RuleError.message`, the text shown to the author of the rules.
-/

namespace TileRules

/-- A tile type or a region of the table that lies outside the fixed layout. -/
inductive RangeFault
  | tileType (id : UInt32)
  | reactionSlot (index : Nat)
  | countList (got expected : Nat)
  | wordList (got expected : Nat)
  | slotInUse (tile count slot : Nat)
  | raggedBlock (size width : Nat)
  | outsideTable (width height x y tableWidth tableHeight : Nat)
  | tableSize (got expected : Nat)
  | other (detail : String)
  deriving DecidableEq, Repr

/-- A tile type or a reaction without a free slot. -/
inductive CapacityFault
  | conditions
  | reactions (tile : UInt32)
  | recordedCount (tile count : Nat)
  | other (detail : String)
  deriving DecidableEq, Repr

/-- An argument that the packed fields cannot represent. -/
inductive ArgumentFault
  | leafTile (id : UInt32)
  | leafDirection (id : UInt32)
  | leafDistance (distance : UInt32)
  | resultTile (id : UInt32)
  | bias (least most got : Int)
  | emptyCombination
  | unknownRuleSet (name : String)
  | other (detail : String)
  deriving DecidableEq, Repr

inductive RuleError
  | rangeViolation (fault : RangeFault)
  | capacityExceeded (fault : CapacityFault)
  | invalidArgument (fault : ArgumentFault)
  /-- Operators stand below the third level, in this many leaf slots. -/
  | treeTooDeep (truncated : Nat)
  deriving DecidableEq, Repr

def RangeFault.detail : RangeFault → String
  | .tileType id => s!"Tile type out of range: {id}"
  | .reactionSlot index => s!"Reaction slot out of range: {index}"
  | .countList got expected => s!"Expected {expected} reaction counts, got {got}"
  | .wordList got expected => s!"Table must hold {expected} words, got {got}"
  | .slotInUse tile count slot =>
      s!"Tile type {tile} records {count} reactions but slot {slot} is in use"
  | .raggedBlock size width => s!"Block of {size} words does not split into rows of {width}"
  | .outsideTable width height x y tableWidth tableHeight =>
      s!"Block {width}x{height} at ({x}, {y}) is outside the {tableWidth}x{tableHeight} table"
  | .tableSize got expected => s!"Table holds {got} words, expected {expected}"
  | .other detail => detail

def CapacityFault.detail : CapacityFault → String
  | .conditions => "Too many conditions added to this reaction"
  | .reactions tile => s!"Too many reactions for tile type {tile}"
  | .recordedCount tile count => s!"Tile type {tile} records {count} reactions"
  | .other detail => detail

def ArgumentFault.detail : ArgumentFault → String
  | .leafTile id => s!"Leaf tile out of range: {id}"
  | .leafDirection id => s!"Leaf direction out of range: {id}"
  | .leafDistance distance => s!"Leaf distance must be 1 or 2, got {distance}"
  | .resultTile id => s!"Result tile out of range: {id}"
  | .bias least most got => s!"Bias must be in [{least}, {most}], got {got}"
  | .emptyCombination => "Cannot combine nothing"
  | .unknownRuleSet name => s!"Unknown rule set: {name}"
  | .other detail => detail

def RuleError.message : RuleError → String
  | .rangeViolation fault => "Range violation: " ++ fault.detail
  | .capacityExceeded fault => "Capacity exceeded: " ++ fault.detail
  | .invalidArgument fault => "Invalid argument: " ++ fault.detail
  | .treeTooDeep truncated =>
      s!"Condition tree too deep: {truncated} leaf slot(s) hold operators"

end TileRules
