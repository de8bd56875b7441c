import TileRules.Text.Alphanumeric.Table
import TileRules.Text.Ranges

/-!
# Alphanumeric — characters that names are made of

`isAlphabetic` holds of the letters of all scripts, and `isAlphanumeric` of their numbers too.
-/

namespace TileRules
namespace Text

/-- Whether a character is a letter. -/
def isAlphabetic (c : Char) : Bool :=
  inRanges alphabeticRanges c.toNat

/-- Whether a character is a letter, a digit or another number. -/
def isAlphanumeric (c : Char) : Bool :=
  isAlphabetic c || inRanges numericRanges c.toNat

end Text
end TileRules
