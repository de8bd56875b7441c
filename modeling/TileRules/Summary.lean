import TileRules.Table

/-!
# Summary — the fields of a reaction block, decoded

A summary lists what a block of the table says: the tile and slot that it belongs to, the result
tile and bias, and its sixteen conditions with value, modes and leaves.

- `RuleTable.decodeReaction` decodes one slot;
- `ConditionSummary.isUnset` holds of a condition all of whose leaves are the never-matching one,
  and `ReactionSummary.activeConditions` leaves such conditions out.
-/

namespace TileRules

open Layout

structure ConditionSummary where
  row : Nat
  value : Int
  modes : Vector Mode 7
  leaves : Vector Leaf 8
  deriving DecidableEq, Repr

structure ReactionSummary where
  tile : UInt32
  slot : Nat
  resultTile : UInt32
  bias : Int
  conditions : List ConditionSummary
  deriving DecidableEq, Repr

namespace ConditionSummary

/-- Decodes one row of a block. -/
def ofRow (index : Nat) (row : Row) : ConditionSummary :=
  let header := row.header >>> headerShift
  { row := index
    value := loadValue header
    modes := Row.modesOf (header >>> modeShift)
    leaves := row.leaves }

/-- Whether every leaf is the one that never matches. -/
def isUnset (c : ConditionSummary) : Bool :=
  c.leaves.toList.all (· == Leaf.never)

end ConditionSummary

namespace ReactionSummary

/-- Decodes a block that stands at this tile and slot. -/
def ofBlock (tile : UInt32) (slot : Nat) (b : Block) : ReactionSummary :=
  { tile
    slot
    resultTile := b.rows[0].header &&& tileMask
    bias := loadValue (b.rows[0].header >>> 5)
    conditions := b.rows.toList.zipIdx.map fun (row, index) => ConditionSummary.ofRow index row }

/-- The conditions that can match. -/
def activeConditions (s : ReactionSummary) : List ConditionSummary :=
  s.conditions.filter (!·.isUnset)

end ReactionSummary

/-- Decodes the block at one tile and slot. -/
def RuleTable.decodeReaction (t : RuleTable) (tile : UInt32) (slot : Nat) :
    Except RuleError ReactionSummary := do
  let found ← t.block tile slot
  return ReactionSummary.ofBlock tile slot found

end TileRules
