import TileRules.Grid
import TileRules.Reaction

/-!
# Table — the compiled rule table

The table maps every tile type to at most eight reactions. It is a grid of 128 × 128 words: tile
type `t` owns the columns `4 * t … 4 * t + 3`, and its slot `s` the rows `16 * s … 16 * s + 15`.
Every slot starts as the no-op block of its tile, so the table is defined however few reactions are
registered.

- `RuleTable.empty` and `RuleTable.addReaction` build a table;
- `RuleTable.block` and `RuleTable.holdsNoop` look at one slot;
- `RuleTable.fromWords` infers the counts of a table read back, and `RuleTable.fromWordsWithCounts`
  checks counts that were recorded.
-/

namespace TileRules

open Layout

structure RuleTable where
  /-- The cells, row by row. -/
  words : Vector UInt32 16384
  /-- Registered reactions of each tile type. -/
  counts : Vector Nat 32
  deriving DecidableEq

namespace RuleTable

/-! ## Coordinates -/

/-- Reads a tile id as an index of the table. -/
def tileIndex (id : UInt32) : Except RuleError (Fin 32) :=
  if h : id.toNat < 32 then .ok ⟨id.toNat, h⟩ else .error (.rangeViolation (.tileType id))

/-- Left column of a tile's strip. -/
def column (tile : Fin 32) : Nat :=
  tile.val * rowWords

/-- Top row of a slot. -/
def topRow (slot : Fin 8) : Nat :=
  slot.val * conditionsPerReaction

/-- The cell at one row and column of a block. -/
def cellIndex (tile : Fin 32) (slot : Fin 8) (row : Fin 16) (col : Fin 4) : Fin 16384 :=
  ⟨(slot.val * 16 + row.val) * 128 + (tile.val * 4 + col.val), by omega⟩

/-! ## Reading -/

/-- The block of one slot in a grid of cells. -/
def blockOf (words : Vector UInt32 16384) (tile : Fin 32) (slot : Fin 8) : Block :=
  ⟨Vector.ofFn fun row : Fin 16 =>
    { header := words[cellIndex tile slot row 0]
      lower := words[cellIndex tile slot row 1]
      middle := words[cellIndex tile slot row 2]
      upper := words[cellIndex tile slot row 3] }⟩

/-- The block of one slot. -/
def block (t : RuleTable) (tile : UInt32) (slot : Nat) : Except RuleError Block := do
  let index ← tileIndex tile
  if h : slot < 8 then
    return blockOf t.words index ⟨slot, h⟩
  else
    throw (.rangeViolation (.reactionSlot slot))

/-- Whether a slot of a grid holds the no-op block of its tile. -/
def isNoop (words : Vector UInt32 16384) (tile : Fin 32) (slot : Fin 8) : Bool :=
  blockOf words tile slot == noopBlock (UInt32.ofNat tile.val)

/-- Whether a slot still holds the no-op block; outside the table none does. -/
def holdsNoop (t : RuleTable) (tile : UInt32) (slot : Nat) : Bool :=
  match t.block tile slot with
  | .ok found => found == noopBlock tile
  | .error _ => false

/-- Number of reactions of a tile type; outside the table it is zero. -/
def reactionCount (t : RuleTable) (tile : UInt32) : Nat :=
  t.counts[tile.toNat]?.getD 0

def totalReactions (t : RuleTable) : Nat :=
  t.counts.toList.foldr (· + ·) 0

/-! ## Building -/

/-- A word of the no-op block of a tile. -/
def noopWord (tile row col : Nat) : UInt32 :=
  if col = 0 then
    if row = 0 then unsetHeader ||| (UInt32.ofNat tile &&& tileMask) else unsetHeader
  else
    neverWord

/-- The table in which every slot holds its no-op block. -/
def empty : RuleTable :=
  { words := Vector.ofFn fun i : Fin 16384 =>
      noopWord (i.val % 128 / 4) (i.val / 128 % 16) (i.val % 4)
    counts := Vector.replicate 32 0 }

/-- Registers a reaction in the next free slot of a tile type. -/
def addReaction (t : RuleTable) (tile : UInt32) (r : Reaction) : Except RuleError RuleTable := do
  let index ← tileIndex tile
  if free : t.counts[index] < 8 then
    let words ← copyRegion t.words tableWidth tableHeight r.data.toArray
      (column index) (topRow ⟨t.counts[index], free⟩) rowWords
    return { words, counts := t.counts.set index.val (t.counts[index] + 1) }
  else
    throw (.capacityExceeded (.reactions tile))

/-! ## Rebuilding from words -/

/-- One past the highest of the first `n` slots that is not the no-op block. -/
def usedBelow (words : Vector UInt32 16384) (tile : Fin 32) : (n : Nat) → n ≤ 8 → Nat
  | 0, _ => 0
  | n + 1, h =>
      if isNoop words tile ⟨n, h⟩ then
        usedBelow words tile n (Nat.le_of_succ_le h)
      else
        n + 1

/-- One past the highest slot that is not the no-op block. -/
def usedSlots (words : Vector UInt32 16384) (tile : Fin 32) : Nat :=
  usedBelow words tile 8 (Nat.le_refl 8)

/-- Reads a list of words as the cells of a table. -/
def cellsOf (words : Array UInt32) : Except RuleError (Vector UInt32 16384) :=
  if h : words.size = 16384 then
    .ok ⟨words, h⟩
  else
    .error (.rangeViolation (.wordList words.size tableCells))

/-- Rebuilds a table from its words; the count of a tile type is one past its highest slot that is
not the no-op block. A last reaction whose block is the no-op block is not seen. -/
def fromWords (words : Array UInt32) : Except RuleError RuleTable := do
  let cells ← cellsOf words
  return { words := cells, counts := Vector.ofFn (usedSlots cells) }

/-- Whether a recorded count covers every slot that is in use and is no larger than the table
allows. -/
def checkCount (words : Vector UInt32 16384) (tile : Fin 32) (count : Nat) :
    Except RuleError Unit :=
  if count > reactionsPerTile then
    .error (.capacityExceeded (.recordedCount tile.val count))
  else if count < usedSlots words tile then
    .error (.rangeViolation (.slotInUse tile.val count (usedSlots words tile - 1)))
  else
    .ok ()

/-- Rebuilds a table from its words and recorded counts. The first tile type whose count does not
fit decides the error. -/
def fromWordsWithCounts (words : Array UInt32) (counts : List Nat) : Except RuleError RuleTable :=
  if h : counts.length = 32 then do
    let recorded : Vector Nat 32 := ⟨counts.toArray, by simpa using h⟩
    let cells ← cellsOf words
    (List.finRange 32).forM fun tile => checkCount cells tile recorded[tile]
    return { words := cells, counts := recorded }
  else
    .error (.rangeViolation (.countList counts.length tileTypes))

/-! ## Bytes -/

/-- A word as four bytes, the lowest first. -/
def wordBytes (word : UInt32) : List UInt8 :=
  [word.toUInt8, (word >>> 8).toUInt8, (word >>> 16).toUInt8, (word >>> 24).toUInt8]

/-- The cells as little-endian bytes, in table order. -/
def toBytes (t : RuleTable) : List UInt8 :=
  t.words.toList.flatMap wordBytes

end RuleTable
end TileRules
