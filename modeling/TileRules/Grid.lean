import TileRules.Error

/-!
# Grid — writing a block into a grid of words

A grid is kept row by row in one vector, so a block that is narrower than the grid is written in
strides. `copyRegion` checks every bound before the first write; `writeCells` is the write itself,
word `k` of the block going to column `k % width` of row `k / width`.
-/

namespace TileRules

variable {n : Nat}

/-- Writes the words of a block, row by row, with its upper left corner at (`x`, `y`). -/
def writeCells (target : Vector UInt32 n) (targetWidth x y width : Nat) (data : Array UInt32) :
    Vector UInt32 n :=
  (List.finRange data.size).foldl
    (fun cells k =>
      cells.setIfInBounds ((y + k.val / width) * targetWidth + x + k.val % width) data[k])
    target

/-- Copies a block of rows `width` words wide into a grid at (`x`, `y`), or says why it cannot. -/
def copyRegion (target : Vector UInt32 n) (targetWidth targetHeight : Nat)
    (data : Array UInt32) (x y width : Nat) : Except RuleError (Vector UInt32 n) :=
  let height := data.size / width
  if width = 0 ∨ data.size % width ≠ 0 then
    .error (.rangeViolation (.raggedBlock data.size width))
  else if x + width > targetWidth ∨ y + height > targetHeight then
    .error (.rangeViolation (.outsideTable width height x y targetWidth targetHeight))
  else if n ≠ targetWidth * targetHeight then
    .error (.rangeViolation (.tableSize n (targetWidth * targetHeight)))
  else
    .ok (writeCells target targetWidth x y width data)

end TileRules
