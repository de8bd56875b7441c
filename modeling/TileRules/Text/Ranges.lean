/-!
# Ranges — sets of characters given as ranges

The tables of characters are lists of inclusive ranges of code points.
-/

namespace TileRules
namespace Text

/-- Whether a code point lies in one of the ranges. -/
def inRanges (ranges : List (Nat × Nat)) (n : Nat) : Bool :=
  ranges.any fun (first, last) => first ≤ n && n ≤ last

end Text
end TileRules
