import TileRules.Json

/-!
# Json printer — indented documents

`Json.pretty` writes one item or member on each line, indented by two blanks for every level, with
`[]` and `{}` for an empty array and an empty object. In a string the quote, the backslash and
the control characters are escaped, and every other character stands for itself.
-/

namespace TileRules
namespace Json

/-! ## Strings -/

/-- A digit of a number below sixteen. -/
def hexDigit (n : Nat) : Char :=
  if n < 10 then Char.ofNat (48 + n) else Char.ofNat (87 + n)

/-- A character as it stands inside a string. -/
def escaped (c : Char) : List Char :=
  if c = '"' then ['\\', '"']
  else if c = '\\' then ['\\', '\\']
  else if c = '\n' then ['\\', 'n']
  else if c = '\t' then ['\\', 't']
  else if c = '\r' then ['\\', 'r']
  else if c = '\x08' then ['\\', 'b']
  else if c = '\x0c' then ['\\', 'f']
  else if c.toNat < 0x20 then
    ['\\', 'u', '0', '0', hexDigit (c.toNat / 16), hexDigit (c.toNat % 16)]
  else [c]

/-- The text between double quotes. -/
def stringLiteral (text : List Char) : List Char :=
  '"' :: text.flatMap escaped ++ ['"']

/-! ## Values -/

/-- A line end and the indentation of a level. -/
def newline (level : Nat) : List Char :=
  '\n' :: List.replicate (2 * level) ' '

mutual

/-- Writes a value whose own line is indented to `level`. -/
def print (level : Nat) : Json → List Char
  | .null => "null".toList
  | .bool true => "true".toList
  | .bool false => "false".toList
  | .number literal => literal
  | .string text => stringLiteral (text.getD "").toList
  | .array [] => ['[', ']']
  | .array (item :: items) =>
      '[' :: newline (level + 1) ++ print (level + 1) item ++ printItems (level + 1) items
        ++ newline level ++ [']']
  | .object [] => ['{', '}']
  | .object (m :: members) =>
      '{' :: newline (level + 1) ++ printMember (level + 1) m ++ printMembers (level + 1) members
        ++ newline level ++ ['}']

/-- The items after the first, each behind its comma. -/
def printItems (level : Nat) : List Json → List Char
  | [] => []
  | item :: items => ',' :: newline level ++ print level item ++ printItems level items

def printMember (level : Nat) : Option String × Json → List Char
  | (name, value) => stringLiteral (name.getD "").toList ++ ':' :: ' ' :: print level value

/-- The members after the first, each behind its comma. -/
def printMembers (level : Nat) : List (Option String × Json) → List Char
  | [] => []
  | m :: members => ',' :: newline level ++ printMember level m ++ printMembers level members

end

/-- The document as an indented text. -/
def pretty (j : Json) : String :=
  String.ofList (print 0 j)

end Json
end TileRules
