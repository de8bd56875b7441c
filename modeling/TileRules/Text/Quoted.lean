import TileRules.Text.Quoted.Table
import TileRules.Text.Ranges

/-!
# Quoted — a text between double quotes

A quoted text shows every character as something visible: quotes and backslashes are escaped by a
backslash, tab, line feed, carriage return and NUL by their letters, and every other character
without a form of its own by its number in hexadecimal.
-/

namespace TileRules
namespace Text

/-- The hexadecimal digits of a number, in small letters. -/
def hexDigits (n : Nat) : String :=
  String.ofList (Nat.toDigits 16 n)

/-- Whether a character has no visible form of its own. -/
def isHidden (c : Char) : Bool :=
  inRanges hiddenRanges c.toNat

/-- A character as it stands inside a quoted text. -/
def quotedChar (c : Char) : String :=
  if c == '"' then "\\\""
  else if c == '\\' then "\\\\"
  else if c == '\t' then "\\t"
  else if c == '\n' then "\\n"
  else if c == '\r' then "\\r"
  else if c == '\x00' then "\\0"
  else if isHidden c then "\\u\x7b" ++ hexDigits c.toNat ++ "\x7d"
  else c.toString

/-- The text between double quotes. -/
def quoted (text : String) : String :=
  "\"" ++ String.join (text.toList.map quotedChar) ++ "\""

end Text
end TileRules
