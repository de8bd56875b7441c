import TileRules.Direction
import TileRules.Error
import TileRules.Layout
import TileRules.Tile

/-!
# Leaf — packed predicates on a neighbouring cell

A leaf says "the cell in this direction, one or two rings out, holds this tile". It packs into nine
bits, tile first:

```
bit  8      4 3    1 0
     T T T T T D D D M
```

`M` is set for distance two and clear for distance one.

- `Leaf.ofParts` masks what does not fit, `Leaf.checked` refuses it;
- `Leaf.ofBits` reads the low nine bits of a word;
- a leaf read from a document keeps all sixteen bits of its number, which `Leaf.raw` holds.
-/

namespace TileRules

/-- A packed predicate. Only the low nine bits have a meaning. -/
structure Leaf where
  raw : UInt16
  deriving DecidableEq, Repr, Inhabited

namespace Leaf

open Layout

/-! ## Packing -/

/-- Packs a tile, a direction and a distance. The tile keeps five bits and the direction three, and
every distance other than two counts as one. -/
def packParts (tile direction distance : UInt32) : UInt32 :=
  ((tile &&& tileMask) <<< 4) ||| ((direction &&& directionMask) <<< 1)
    ||| (if distance == 2 then 1 else 0)

/-- The tile, direction and magnitude fields of a packed leaf. -/
def unpackParts (value : UInt32) : UInt32 × UInt32 × UInt32 :=
  ((value >>> 4) &&& tileMask, (value >>> 1) &&& directionMask, value &&& 1)

/-- The leaf that never matches. -/
def never : Leaf := ⟨496⟩

/-- Builds a leaf from its parts and masks what does not fit. -/
def ofParts (tile direction distance : UInt32) : Leaf :=
  ⟨(packParts tile direction distance).toUInt16⟩

/-- Builds a leaf from its parts and refuses what `ofParts` would mask. -/
def checked (tile direction distance : UInt32) : Except RuleError Leaf :=
  if tile.toNat ≥ tileTypes then
    .error (.invalidArgument (.leafTile tile))
  else if direction > directionMask then
    .error (.invalidArgument (.leafDirection direction))
  else if distance != 1 && distance != 2 then
    .error (.invalidArgument (.leafDistance distance))
  else
    .ok (ofParts tile direction distance)

/-- Reads the low nine bits of a word. -/
def ofBits (bits : UInt32) : Leaf :=
  ⟨(bits &&& leafMask).toUInt16⟩

/-! ## Fields -/

/-- The stored number as a word. -/
def bits (l : Leaf) : UInt32 :=
  l.raw.toUInt32

def tile (l : Leaf) : UInt32 :=
  (unpackParts l.bits).1

def direction (l : Leaf) : Direction :=
  Direction.ofBits (unpackParts l.bits).2.1

def magnitude (l : Leaf) : UInt32 :=
  (unpackParts l.bits).2.2

/-- Ring distance, one or two. -/
def distance (l : Leaf) : UInt32 :=
  l.magnitude + 1

/-- A leaf whose number has nine bits, as every leaf built from parts or bits has. -/
def Fits (l : Leaf) : Prop :=
  l.raw < 512

instance (l : Leaf) : Decidable l.Fits :=
  inferInstanceAs (Decidable (l.raw < 512))

/-- Writes a leaf as tile, direction and distance, and the leaf that never matches as `false`. -/
def text (l : Leaf) : String :=
  if l = never then
    "false"
  else
    describeTile l.tile ++ "@" ++ l.direction.name ++ "+" ++ toString l.distance

end Leaf
end TileRules
