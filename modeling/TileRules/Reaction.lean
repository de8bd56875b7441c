import TileRules.Block

/-!
# Reaction — one candidate transformation of a tile

A reaction names the tile that it turns a cell into and a base bias, and carries up to sixteen
weighted conditions. Its block is kept up to date from the start: the rows that no condition has
taken yet are unset.

- `Reaction.new` masks a result tile or bias that does not fit, `Reaction.checked` refuses it;
- `Reaction.addConditionWith` puts a condition into the next free row.
-/

namespace TileRules

open Layout

structure Reaction where
  block : Block
  conditionCount : Nat
  /-- The result tile as it was given, not masked. -/
  resultTile : UInt32
  /-- The bias as it was given, not masked. -/
  bias : Int
  deriving DecidableEq, Repr

namespace Reaction

/-- The bits of the reaction itself: `bias(5) << 5 | result(5)`. -/
def reactionBits (resultTile : UInt32) (bias : Int) : UInt32 :=
  (storeValue bias <<< 5) ||| (resultTile &&& tileMask)

/-- A reaction without conditions. -/
def new (resultTile : UInt32) (bias : Int) : Reaction :=
  { block := unsetBlock (reactionBits resultTile bias)
    conditionCount := 0
    resultTile
    bias }

/-- A reaction without conditions whose result tile and bias fit their fields. -/
def checked (resultTile : UInt32) (bias : Int) : Except RuleError Reaction :=
  if resultTile.toNat ≥ tileTypes then
    .error (.invalidArgument (.resultTile resultTile))
  else if bias < valueMin ∨ bias > valueMax then
    .error (.invalidArgument (.bias valueMin valueMax bias))
  else
    .ok (new resultTile bias)

/-- A condition row as it stands at `index` of the block of this reaction. -/
def placeRow (r : Reaction) (index : Nat) (row : Row) : Row :=
  withReactionBits index (reactionBits r.resultTile r.bias)
    { row with header := row.header <<< headerShift }

/-- Adds a weighted condition in the next free row. -/
def addConditionWith (r : Reaction) (tree : Condition) (value : Int) (policy : DepthPolicy) :
    Except RuleError Reaction :=
  if free : r.conditionCount < 16 then do
    let row ← flattenWith tree value policy
    let rows := r.block.rows.set r.conditionCount (r.placeRow r.conditionCount row) free
    return { r with block := ⟨rows⟩, conditionCount := r.conditionCount + 1 }
  else
    .error (.capacityExceeded .conditions)

/-- Adds a weighted condition; what stands below the third level of its tree is lost. -/
def addCondition (r : Reaction) (tree : Condition) (value : Int) : Except RuleError Reaction :=
  r.addConditionWith tree value .truncate

/-- Adds a weighted condition, unless its tree is deeper than three levels. -/
def addConditionStrict (r : Reaction) (tree : Condition) (value : Int) :
    Except RuleError Reaction :=
  r.addConditionWith tree value .reject

/-- The words of the block. -/
def data (r : Reaction) : Vector UInt32 64 :=
  r.block.words

end Reaction
end TileRules
