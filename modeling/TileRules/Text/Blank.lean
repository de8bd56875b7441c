/-!
# Blank — characters that count as white space

White space is the set of 25 characters with the property of that name; `isBlankText` holds of a
text that nothing is left of when it is trimmed on both sides.
-/

namespace TileRules
namespace Text

/-- White space: the controls from tab to carriage return, the blank, and the spaces and line
separators beyond ASCII. -/
def isBlank (c : Char) : Bool :=
  let n := c.toNat
  (9 ≤ n && n ≤ 13) || n == 0x20 || n == 0x85 || n == 0xa0 || n == 0x1680 ||
    (0x2000 ≤ n && n ≤ 0x200a) || n == 0x2028 || n == 0x2029 || n == 0x202f || n == 0x205f ||
    n == 0x3000

/-- A text of white space only. -/
def isBlankText (text : String) : Bool :=
  text.toList.all isBlank

end Text
end TileRules
