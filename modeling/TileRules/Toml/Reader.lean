import TileRules.Toml.Scalar
import TileRules.Toml.Tree

/-!
# Toml reader — documents from text

`Toml.parse?` reads a whole text as a document, with an optional byte order mark before it. Lines
hold a header, a key with its value, or nothing, and may end in a comment. Line ends are line feeds,
with or without a carriage return before them; other control characters stand nowhere.

- `readBasic`, `readLiteral` and their counterparts over several lines read strings;
- `readKey` reads the names of a dotted key;
- `readValue` reads a value, and refuses values that are nested too deeply;
- `readLines` reads sections of lines.

The fuel of every reader is bounded by the length of the text.
-/

namespace TileRules
namespace Toml

/-! ## Characters -/

def isGap (c : Char) : Bool :=
  c == ' ' || c == '\t'

/-- Characters of comments and literal strings: a tab, and all but the control characters. -/
def isText (c : Char) : Bool :=
  c == '\t' || (0x20 ≤ c.toNat && c.toNat != 0x7f)

def isNameChar (c : Char) : Bool :=
  ('a' ≤ c && c ≤ 'z') || ('A' ≤ c && c ≤ 'Z') || ('0' ≤ c && c ≤ '9') || c == '-' || c == '_'

/-- Characters of a scalar: those of a name, and the signs of numbers, dates and times. -/
def isScalarChar (c : Char) : Bool :=
  isNameChar c || c == '+' || c == '.' || c == ':'

def skipGaps (chars : List Char) : List Char :=
  chars.dropWhile isGap

/-- Drops one line end. -/
def dropLineEnd? : List Char → Option (List Char)
  | '\n' :: rest => some rest
  | '\r' :: '\n' :: rest => some rest
  | _ => none

/-- Drops the rest of a line: gaps, a comment, and the line end or the end of the text. -/
def endLine? (chars : List Char) : Option (List Char) :=
  let rest := skipGaps chars
  let rest := match rest with
    | '#' :: comment => comment.dropWhile isText
    | rest => rest
  if rest.isEmpty then some [] else dropLineEnd? rest

/-- Drops gaps, line ends and comments. -/
def skipFiller (inComment : Bool) : List Char → List Char
  | [] => []
  | '\n' :: rest => skipFiller false rest
  | '\r' :: '\n' :: rest => skipFiller false rest
  | c :: rest =>
      if inComment then
        if isText c then skipFiller true rest else c :: rest
      else if isGap c then skipFiller false rest
      else if c = '#' then skipFiller true rest
      else c :: rest

/-! ## Strings -/

/-- The character of a number of hexadecimal digits, if it is one. -/
def codePoint? (digits : List Char) : Option Char :=
  match digits.mapM (Scalar.digitValue? 16) with
  | none => none
  | some values =>
      let n := values.foldl (fun n value => n * 16 + value) 0
      if n.isValidChar then some (Char.ofNat n) else none

/-- The character of an escape by a letter or sign. -/
def signEscape? : Char → Option Char
  | 'b' => some '\x08'
  | 't' => some '\t'
  | 'n' => some '\n'
  | 'f' => some '\x0c'
  | 'r' => some '\r'
  | '"' => some '"'
  | '\\' => some '\\'
  | _ => none

/-- The character of an escape behind its backslash, and what follows it. -/
def readEscape? : List Char → Option (Char × List Char)
  | 'u' :: a :: b :: c :: d :: rest => (codePoint? [a, b, c, d]).map fun found => (found, rest)
  | 'U' :: a :: b :: c :: d :: e :: f :: g :: h :: rest =>
      (codePoint? [a, b, c, d, e, f, g, h]).map fun found => (found, rest)
  | e :: rest => (signEscape? e).map fun found => (found, rest)
  | [] => none

/-- Reads a string between double quotes, behind the characters read so far, last first. -/
def readBasic : (fuel : Nat) → List Char → List Char → Option (List Char × List Char)
  | 0, _, _ => none
  | _ + 1, _, [] => none
  | _ + 1, found, '"' :: rest => some (found.reverse, rest)
  | fuel + 1, found, '\\' :: rest =>
      match readEscape? rest with
      | some (c, rest) => readBasic fuel (c :: found) rest
      | none => none
  | fuel + 1, found, c :: rest => if isText c then readBasic fuel (c :: found) rest else none

/-- Reads a string between single quotes, where nothing is escaped. -/
def readLiteral (found : List Char) : List Char → Option (List Char × List Char)
  | [] => none
  | '\'' :: rest => some (found.reverse, rest)
  | c :: rest => if isText c then readLiteral (c :: found) rest else none

/-- Drops gaps and line ends. -/
def skipBlankLines : List Char → List Char
  | [] => []
  | '\n' :: rest => skipBlankLines rest
  | '\r' :: '\n' :: rest => skipBlankLines rest
  | c :: rest => if isGap c then skipBlankLines rest else c :: rest

/-- Drops an escaped line end behind its backslash, and all gaps and line ends that follow. -/
def skipEscapedLine? (chars : List Char) : Option (List Char) :=
  (dropLineEnd? (skipGaps chars)).map skipBlankLines

/-- Reads a string between triple double quotes. Up to two quotes may stand before the closing ones,
and a backslash at the end of a line takes the line end and the gaps after it away. -/
def readLongBasic : (fuel : Nat) → List Char → List Char → Option (List Char × List Char)
  | 0, _, _ => none
  | fuel + 1, found, chars =>
      match chars with
      | [] => none
      | '"' :: '"' :: '"' :: '"' :: '"' :: rest => some (('"' :: '"' :: found).reverse, rest)
      | '"' :: '"' :: '"' :: '"' :: rest => some (('"' :: found).reverse, rest)
      | '"' :: '"' :: '"' :: rest => some (found.reverse, rest)
      | '\\' :: rest =>
          match readEscape? rest with
          | some (c, rest) => readLongBasic fuel (c :: found) rest
          | none =>
              match skipEscapedLine? rest with
              | some rest => readLongBasic fuel found rest
              | none => none
      | '\r' :: '\n' :: rest => readLongBasic fuel ('\n' :: found) rest
      | c :: rest =>
          if isText c || c == '\n' then readLongBasic fuel (c :: found) rest else none

/-- Reads a string between triple single quotes. -/
def readLongLiteral (found : List Char) : List Char → Option (List Char × List Char)
  | [] => none
  | '\'' :: '\'' :: '\'' :: '\'' :: '\'' :: rest => some (('\'' :: '\'' :: found).reverse, rest)
  | '\'' :: '\'' :: '\'' :: '\'' :: rest => some (('\'' :: found).reverse, rest)
  | '\'' :: '\'' :: '\'' :: rest => some (found.reverse, rest)
  | '\r' :: '\n' :: rest => readLongLiteral ('\n' :: found) rest
  | c :: rest => if isText c || c == '\n' then readLongLiteral (c :: found) rest else none

/-- Drops the line end right after triple quotes. -/
def dropFirstLineEnd (chars : List Char) : List Char :=
  (dropLineEnd? chars).getD chars

/-- Reads a string of any kind. -/
def readString? (chars : List Char) : Option (String × List Char) :=
  let found := match chars with
    | '"' :: '"' :: '"' :: rest => readLongBasic chars.length [] (dropFirstLineEnd rest)
    | '\'' :: '\'' :: '\'' :: rest => readLongLiteral [] (dropFirstLineEnd rest)
    | '"' :: rest => readBasic chars.length [] rest
    | '\'' :: rest => readLiteral [] rest
    | _ => none
  found.map fun (text, rest) => (String.ofList text, rest)

/-! ## Keys -/

/-- The longest dotted key, and the deepest nesting of values, lie below this. -/
def depthLimit : Nat := 80

/-- One name of a key: bare, or quoted on one line. -/
def readName? (chars : List Char) : Option (String × List Char) :=
  match chars with
  | '"' :: rest =>
      (readBasic chars.length [] rest).map fun (text, rest) => (String.ofList text, rest)
  | '\'' :: rest => (readLiteral [] rest).map fun (text, rest) => (String.ofList text, rest)
  | chars =>
      let name := chars.takeWhile isNameChar
      if name.isEmpty then none else some (String.ofList name, chars.dropWhile isNameChar)

/-- The names of a dotted key, with gaps around each. -/
def readKey : (fuel : Nat) → List Char → Option (List String × List Char)
  | 0, _ => none
  | fuel + 1, chars =>
      match readName? (skipGaps chars) with
      | none => none
      | some (name, rest) =>
          match skipGaps rest with
          | '.' :: rest => (readKey fuel rest).map fun (names, rest) => (name :: names, rest)
          | rest => some ([name], rest)

/-- A dotted key that is not too long. -/
def readKey? (chars : List Char) : Option (List String × List Char) :=
  (readKey chars.length chars).filter fun (names, _) => names.length < depthLimit

/-! ## Values -/

/-- The run of characters of a scalar. A date is followed by its time behind one blank. -/
def scalarRun (chars : List Char) : List Char × List Char :=
  let run := chars.takeWhile isScalarChar
  let rest := chars.dropWhile isScalarChar
  match rest with
  | ' ' :: digit :: _ =>
      if Scalar.isDate run && Scalar.isDecimal digit then
        (run ++ ' ' :: (rest.drop 1).takeWhile isScalarChar, (rest.drop 1).dropWhile isScalarChar)
      else
        (run, rest)
  | _ => (run, rest)

mutual

/-- Reads a value at the front, `depth` collections deep. -/
def readValue (depth : Nat) : (fuel : Nat) → List Char → Option (Toml × List Char)
  | 0, _ => none
  | fuel + 1, chars =>
      match chars with
      | '"' :: _ | '\'' :: _ =>
          (readString? chars).map fun (text, rest) => (.string text, rest)
      | '[' :: rest =>
          if depth + 1 < depthLimit then readItems (depth + 1) fuel [] rest else none
      | '{' :: rest =>
          if depth + 1 < depthLimit then
            match skipGaps rest with
            | '}' :: rest => some (.table [], rest)
            | rest => readPairs (depth + 1) fuel [] rest
          else
            none
      | chars =>
          let (run, rest) := scalarRun chars
          (scalar? run).map fun value => (value, rest)

/-- Reads the items of an array, behind the items read so far, last first. -/
def readItems (depth : Nat) : (fuel : Nat) → List Toml → List Char → Option (Toml × List Char)
  | 0, _, _ => none
  | fuel + 1, found, chars =>
      match skipFiller false chars with
      | ']' :: rest => some (.array found.reverse, rest)
      | chars =>
          match readValue depth fuel chars with
          | none => none
          | some (item, rest) =>
              match skipFiller false rest with
              | ',' :: rest => readItems depth fuel (item :: found) rest
              | ']' :: rest => some (.array (item :: found).reverse, rest)
              | _ => none

/-- Reads the keys and values between braces, behind those read so far, last first. -/
def readPairs (depth : Nat) : (fuel : Nat) → List Entry → List Char → Option (Toml × List Char)
  | 0, _, _ => none
  | fuel + 1, found, chars =>
      match readEntry depth fuel chars with
      | none => none
      | some (e, rest) =>
          match skipGaps rest with
          | ',' :: rest => readPairs depth fuel (e :: found) rest
          | '}' :: rest => (Tree.ofEntries? (e :: found).reverse).map fun table => (table, rest)
          | _ => none

/-- Reads a key and its value. -/
def readEntry (depth : Nat) : (fuel : Nat) → List Char → Option (Entry × List Char)
  | 0, _ => none
  | fuel + 1, chars =>
      match readKey? chars with
      | some (names, '=' :: rest) =>
          (readValue depth fuel (skipGaps rest)).map fun (value, rest) =>
            (⟨names.dropLast, names.getLast?.getD "", value⟩, rest)
      | _ => none

end

/-! ## Lines -/

/-- Reads a header behind its first bracket: the section that it opens and the rest of the text. -/
def readHeader? (chars : List Char) : Option (Section × List Char) :=
  match chars with
  | '[' :: rest =>
      match readKey? rest with
      | some (path, ']' :: ']' :: rest) => (endLine? rest).map fun rest => (⟨path, true, []⟩, rest)
      | _ => none
  | rest =>
      match readKey? rest with
      | some (path, ']' :: rest) => (endLine? rest).map fun rest => (⟨path, false, []⟩, rest)
      | _ => none

/-- A section with its entries in the order of the text. -/
def closeSection (s : Section) : Section :=
  { s with entries := s.entries.reverse }

/-- Reads lines into the current section, whose entries are kept last first, behind the sections
read so far, last first. -/
def readLines : (fuel : Nat) → List Section → Section → List Char → Option (List Section)
  | 0, _, _, _ => none
  | fuel + 1, found, current, chars =>
      match skipGaps chars with
      | [] => some (closeSection current :: found).reverse
      | '[' :: rest =>
          match readHeader? rest with
          | some (next, rest) => readLines fuel (closeSection current :: found) next rest
          | none => none
      | '#' :: _ | '\n' :: _ | '\r' :: _ =>
          match endLine? chars with
          | some rest => readLines fuel found current rest
          | none => none
      | rest =>
          match readEntry 0 (2 * rest.length) rest with
          | none => none
          | some (e, rest) =>
              match endLine? rest with
              | some rest =>
                  readLines fuel found { current with entries := e :: current.entries } rest
              | none => none

/-- Reads a whole text as one document. -/
def parse? (text : String) : Option Toml :=
  let chars := match text.toList with
    | '\ufeff' :: rest => rest
    | chars => chars
  (readLines (chars.length + 1) [] ⟨[], false, []⟩ chars).bind Tree.ofSections?

end Toml
end TileRules
