import TileRules.Row

/-!
# Block — sixteen condition rows as they stand in the table

A reaction occupies a block of sixteen rows of four words. In a block every header stands ten bits
higher than in a row of its own, and row 0 uses the freed low bits for the reaction itself:

```
row 0 header   modes(14) << 15 | value(5) << 10 | bias(5) << 5 | result(5)
row n header   modes(14) << 15 | value(5) << 10
```

- `Block.words` is the block as 64 words, row by row;
- `noopBlock` turns a tile into itself under no satisfiable condition; unused slots hold it.
-/

namespace TileRules

open Layout

structure Block where
  rows : Vector Row 16
  deriving DecidableEq, Repr

namespace Block

/-- The words of the block, row by row. -/
def words (b : Block) : Vector UInt32 64 :=
  (b.rows.map Row.words).flatten

end Block

/-- The row of a condition that was never set. -/
def unsetRow : Row :=
  { header := unsetHeader, lower := neverWord, middle := neverWord, upper := neverWord }

/-- The row at `index`, with the bits of the reaction in row 0 only. -/
def withReactionBits (index : Nat) (bits : UInt32) (row : Row) : Row :=
  if index = 0 then { row with header := row.header ||| bits } else row

/-- A block of unset conditions with the bits of a reaction in its first row. -/
def unsetBlock (bits : UInt32) : Block :=
  ⟨Vector.ofFn fun i : Fin 16 => withReactionBits i.val bits unsetRow⟩

/-- The block that turns a tile into itself and never matches. Its bias field is zero. -/
def noopBlock (tile : UInt32) : Block :=
  unsetBlock (tile &&& tileMask)

end TileRules
