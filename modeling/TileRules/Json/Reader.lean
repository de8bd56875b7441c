import TileRules.Json

/-!
# Json reader — documents from text

`Json.parse?` reads a whole text as one document, with blanks, tabs and line ends between its parts
and nothing else after it. The grammar is strict: no leading zeros, no trailing commas, no bare
control characters in strings. Nothing bounds the depth or the size of a number.

- `readString` reads a string behind its opening quote into code points, and `assemble` joins the
  halves of surrogate pairs;
- `readNumber` reads the literal of a number;
- `readValue` reads a value; its fuel is the length of the text.
-/

namespace TileRules
namespace Json

def isSpace (c : Char) : Bool :=
  c == ' ' || c == '\n' || c == '\t' || c == '\r'

def skipSpace (chars : List Char) : List Char :=
  chars.dropWhile isSpace

/-! ## Strings -/

def hexValue? (c : Char) : Option Nat :=
  if '0' ≤ c && c ≤ '9' then some (c.toNat - 48)
  else if 'a' ≤ c && c ≤ 'f' then some (c.toNat - 87)
  else if 'A' ≤ c && c ≤ 'F' then some (c.toNat - 55)
  else none

/-- The number of four hexadecimal digits. -/
def hexQuad? (a b c d : Char) : Option Nat := do
  let a ← hexValue? a
  let b ← hexValue? b
  let c ← hexValue? c
  let d ← hexValue? d
  return ((a * 16 + b) * 16 + c) * 16 + d

/-- The character of an escape by a letter or sign. -/
def signEscape? : Char → Option Char
  | '"' => some '"'
  | '\\' => some '\\'
  | '/' => some '/'
  | 'b' => some '\x08'
  | 'f' => some '\x0c'
  | 'n' => some '\n'
  | 'r' => some '\r'
  | 't' => some '\t'
  | _ => none

/-- Reads a string up to its closing quote, behind the code points read so far, last first. -/
def readString (found : List Nat) : List Char → Option (List Nat × List Char)
  | [] => none
  | '"' :: rest => some (found.reverse, rest)
  | '\\' :: 'u' :: a :: b :: c :: d :: rest =>
      match hexQuad? a b c d with
      | some n => readString (n :: found) rest
      | none => none
  | '\\' :: e :: rest =>
      match signEscape? e with
      | some c => readString (c.toNat :: found) rest
      | none => none
  | c :: rest => if c.toNat < 0x20 then none else readString (c.toNat :: found) rest

def isHighHalf (n : Nat) : Bool :=
  0xd800 ≤ n && n < 0xdc00

def isLowHalf (n : Nat) : Bool :=
  0xdc00 ≤ n && n < 0xe000

/-- Joins the halves of surrogate pairs; a half without its other half has no text. -/
def assemble : List Nat → Option (List Char)
  | [] => some []
  | [n] => if isHighHalf n || isLowHalf n then none else some [Char.ofNat n]
  | n :: m :: rest =>
      if isHighHalf n then
        if isLowHalf m then
          (assemble rest).map (Char.ofNat (0x10000 + (n - 0xd800) * 0x400 + (m - 0xdc00)) :: ·)
        else
          none
      else if isLowHalf n then
        none
      else
        (assemble (m :: rest)).map (Char.ofNat n :: ·)

/-- The text of the code points, where they have one. -/
def textOf (codePoints : List Nat) : Option String :=
  (assemble codePoints).map String.ofList

/-! ## Numbers -/

def isDigit (c : Char) : Bool :=
  '0' ≤ c && c ≤ '9'

/-- The digits at the front, of which there is at least one. -/
def readDigits (chars : List Char) : Option (List Char × List Char) :=
  let digits := chars.takeWhile isDigit
  if digits.isEmpty then none else some (digits, chars.dropWhile isDigit)

/-- The integer part: a zero, or digits that start with none. -/
def readInteger : List Char → Option (List Char × List Char)
  | '0' :: rest => some (['0'], rest)
  | chars => readDigits chars

/-- The fraction, where a point stands. -/
def readFraction : List Char → Option (List Char × List Char)
  | '.' :: rest => (readDigits rest).map fun (digits, rest) => ('.' :: digits, rest)
  | chars => some ([], chars)

/-- The sign of an exponent and its digits. -/
def readSigned : List Char → Option (List Char × List Char)
  | '+' :: rest => (readDigits rest).map fun (digits, rest) => ('+' :: digits, rest)
  | '-' :: rest => (readDigits rest).map fun (digits, rest) => ('-' :: digits, rest)
  | chars => readDigits chars

/-- The exponent, where its letter stands. -/
def readExponent : List Char → Option (List Char × List Char)
  | 'e' :: rest => (readSigned rest).map fun (digits, rest) => ('e' :: digits, rest)
  | 'E' :: rest => (readSigned rest).map fun (digits, rest) => ('E' :: digits, rest)
  | chars => some ([], chars)

/-- The literal of a number without its sign. -/
def readMagnitude (chars : List Char) : Option (List Char × List Char) := do
  let (whole, chars) ← readInteger chars
  let (fraction, chars) ← readFraction chars
  let (exponent, chars) ← readExponent chars
  return (whole ++ fraction ++ exponent, chars)

/-- The literal of a number. -/
def readNumber : List Char → Option (List Char × List Char)
  | '-' :: rest => (readMagnitude rest).map fun (literal, rest) => ('-' :: literal, rest)
  | chars => readMagnitude chars

/-! ## Values -/

mutual

/-- Reads a value at the front. -/
def readValue : (fuel : Nat) → List Char → Option (Json × List Char)
  | 0, _ => none
  | fuel + 1, chars =>
      match skipSpace chars with
      | '"' :: rest => (readString [] rest).map fun (codes, rest) => (.string (textOf codes), rest)
      | '[' :: rest =>
          match skipSpace rest with
          | ']' :: rest => some (.array [], rest)
          | rest => readItems fuel [] rest
      | '{' :: rest =>
          match skipSpace rest with
          | '}' :: rest => some (.object [], rest)
          | rest => readMembers fuel [] rest
      | 'n' :: 'u' :: 'l' :: 'l' :: rest => some (.null, rest)
      | 't' :: 'r' :: 'u' :: 'e' :: rest => some (.bool true, rest)
      | 'f' :: 'a' :: 'l' :: 's' :: 'e' :: rest => some (.bool false, rest)
      | rest => (readNumber rest).map fun (literal, rest) => (.number literal, rest)

/-- Reads items up to the closing bracket, behind the items read so far, last first. -/
def readItems : (fuel : Nat) → List Json → List Char → Option (Json × List Char)
  | 0, _, _ => none
  | fuel + 1, found, chars =>
      match readValue fuel chars with
      | none => none
      | some (item, rest) =>
          match skipSpace rest with
          | ',' :: rest => readItems fuel (item :: found) rest
          | ']' :: rest => some (.array (item :: found).reverse, rest)
          | _ => none

/-- Reads members up to the closing brace, behind the members read so far, last first. -/
def readMembers : (fuel : Nat) → List (Option String × Json) → List Char →
    Option (Json × List Char)
  | 0, _, _ => none
  | fuel + 1, found, chars =>
      match skipSpace chars with
      | '"' :: rest =>
          match readString [] rest with
          | none => none
          | some (codes, rest) =>
              match skipSpace rest with
              | ':' :: rest =>
                  match readValue fuel rest with
                  | none => none
                  | some (value, rest) =>
                      let found := (textOf codes, value) :: found
                      match skipSpace rest with
                      | ',' :: rest => readMembers fuel found rest
                      | '}' :: rest => some (.object found.reverse, rest)
                      | _ => none
              | _ => none
      | _ => none

end

/-- Reads a whole text as one document. -/
def parse? (text : String) : Option Json :=
  match readValue (text.length + 1) text.toList with
  | some (document, rest) => if (skipSpace rest).isEmpty then some document else none
  | none => none

end Json
end TileRules
