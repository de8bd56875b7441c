/-!
# Layout — field widths and capacities of the rule table

The table is a grid of 32-bit words, 128 columns by 128 rows, kept row by row. Every tile type owns
a strip of four columns, and every strip is cut into eight reaction blocks of sixteen rows. One row
of a block holds one condition: a header word and three words of packed leaves.

- sizes (`internalSlots`, `rowWords`, `tableCells`, …) are natural numbers, so that they can index
  vectors;
- masks, shifts and whole words (`tileMask`, `headerShift`, `neverWord`, …) are machine words.
-/

namespace TileRules
namespace Layout

/-! ## Fields -/

/-- Width of a tile id. -/
def tileBits : UInt32 := 5

def tileMask : UInt32 := 31

def directionMask : UInt32 := 7

/-- Width of a packed leaf: five bits of tile, three of direction, one of magnitude. -/
def leafBits : UInt32 := 9

def leafMask : UInt32 := 511

def modeMask : UInt32 := 3

/-- Signed values and biases are stored as the value plus this offset, in five bits. -/
def valueOffset : Int := 16

def valueMask : UInt32 := 31

def valueMin : Int := -16

def valueMax : Int := 15

/-! ## Shapes -/

/-- Operators of a complete tree of three levels. -/
abbrev internalSlots : Nat := 7

/-- Leaves below the third level. -/
abbrev leafSlots : Nat := 8

abbrev leavesPerWord : Nat := 3

/-- Words of a condition row: a header and three words of leaves. -/
abbrev rowWords : Nat := 4

/-- Inside a reaction block a header stands this many bits higher than in a row of its own. -/
def headerShift : UInt32 := 10

/-- The modes of a header stand above its five-bit value. -/
def modeShift : UInt32 := 5

/-! ## Capacities -/

abbrev tileTypes : Nat := 32

abbrev reactionsPerTile : Nat := 8

abbrev conditionsPerReaction : Nat := 16

abbrev blockWords : Nat := conditionsPerReaction * rowWords

abbrev tableWidth : Nat := 128

abbrev tableHeight : Nat := 128

abbrev tableCells : Nat := tableWidth * tableHeight

/-! ## Default words -/

/-- The leaf that never matches: tile 31, north, distance 1. No world holds tile 31. -/
def neverLeaf : UInt32 := 496

/-- Three leaves that never match, packed lowest first. -/
def neverWord : UInt32 := (neverLeaf <<< 18) ||| (neverLeaf <<< 9) ||| neverLeaf

/-- Header of an unset condition inside a block: every mode is AND and the value is zero. -/
def unsetHeader : UInt32 := 16 <<< headerShift

end Layout
end TileRules
