/-!
# Number — unsigned decimal numbers in a text

`unsigned?` reads a whole text as a decimal number: digits, with a plus sign before them or not, and
leading zeros allowed. A number above the limit is not read.
-/

namespace TileRules
namespace Text

/-- The value of a decimal digit. -/
def digit? (c : Char) : Option Nat :=
  if '0' ≤ c && c ≤ '9' then some (c.toNat - '0'.toNat) else none

/-- The value of a list of decimal digits, the highest first. -/
def digits? (chars : List Char) : Option Nat :=
  chars.foldlM (fun value c => (digit? c).map (value * 10 + ·)) 0

/-- Reads a decimal number that is at most `limit`. -/
def unsigned? (limit : Nat) (text : String) : Option Nat :=
  let digits := match text.toList with
    | '+' :: rest => rest
    | chars => chars
  if digits.isEmpty then none else (digits? digits).filter (· ≤ limit)

end Text
end TileRules
