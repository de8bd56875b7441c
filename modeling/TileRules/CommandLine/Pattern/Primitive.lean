import TileRules.Text.Blank

/-!
# Primitive — the smallest parts of a pattern

A pattern is read under flags that it may change on its way. A primitive is a character, a class of
characters that has a name, the dot, or an assertion about the place; most of them can be written
behind a backslash.

- `Flags.skip` passes over blanks and comments where a pattern may be laid out freely;
- `Primitive.escaped?` reads a primitive behind its backslash;
- `Primitive.isAllowed` says which ones a pattern may hold. Patterns are matched without tables of
  characters and against whole characters only, so it depends on the flags.
-/

namespace TileRules
namespace Pattern

/-! ## Flags -/

/-- What a pattern is read under. -/
structure Flags where
  /-- Letters stand for both of their cases. -/
  foldsCase : Bool := false
  /-- Patterns are about characters, and about bytes otherwise. -/
  unicode : Bool := true
  /-- Blanks between the parts are ignored, and so are comments from a hash to the end of line. -/
  spaced : Bool := false
  deriving DecidableEq, Repr

/-- Drops blanks and comments. -/
def skipBlanks (inComment : Bool) : List Char → List Char
  | [] => []
  | c :: rest =>
      if inComment then skipBlanks (c != '\n') rest
      else if Text.isBlank c then skipBlanks false rest
      else if c == '#' then skipBlanks true rest
      else c :: rest

/-- The first character that counts behind a dash, where a comment ends before its first character
that is not blank. -/
def peekBlanks (inComment : Bool) : List Char → Option Char
  | [] => none
  | c :: rest =>
      if Text.isBlank c then peekBlanks inComment rest
      else if c == '#' && !inComment then peekBlanks true rest
      else some c

/-- Drops what the flags allow between two parts. -/
def Flags.skip (flags : Flags) (text : List Char) : List Char :=
  if flags.spaced then skipBlanks false text else text

/-- Looks at the next character behind a dash in a class. -/
def Flags.peek (flags : Flags) (text : List Char) : Option Char :=
  if flags.spaced then peekBlanks false text else text.head?

/-! ## Primitives -/

/-- A smallest part of a pattern. -/
inductive Primitive
  /-- A character; as a byte if it is given by two digits. -/
  | literal (c : Char) (asByte : Bool)
  | dot
  /-- A place in the text; one about words needs to know what a letter is. -/
  | assertion (aboutWords : Bool)
  /-- All digits, blanks or letters of words, or all other characters. -/
  | named (negated : Bool)
  deriving DecidableEq, Repr

namespace Primitive

/-- The value of a hexadecimal digit. -/
def hexValue? (c : Char) : Option Nat :=
  if c.isDigit then some (c.toNat - '0'.toNat)
  else if 'a' ≤ c.toLower && c.toLower ≤ 'f' then some (c.toLower.toNat - 'a'.toNat + 10)
  else none

/-- Reads a number of `count` hexadecimal digits behind those that make up `value`. -/
def hex? (flags : Flags) : (count value : Nat) → List Char → Option (Nat × List Char)
  | 0, value, text => some (value, text)
  | count + 1, value, text =>
      match flags.skip text with
      | c :: rest => (hexValue? c).bind fun digit => hex? flags count (16 * value + digit) rest
      | [] => none

/-- Reads a character that is given by the number of its code point. -/
def numbered? (flags : Flags) (digits : Nat) (text : List Char) :
    Option (Primitive × List Char) :=
  (hex? flags digits 0 text).bind fun (value, rest) =>
    if value.isValidChar then some (.literal (Char.ofNat value) (digits == 2), rest) else none

/-- Whether a character stands for itself behind a backslash. -/
def isEscapable (c : Char) : Bool :=
  c.toNat < 128 && !c.isAlphanum && c != '<' && c != '>'

/-- The control characters that a letter behind a backslash stands for. -/
def controls : List (Char × Char) :=
  [('a', '\x07'), ('f', '\x0c'), ('t', '\t'), ('n', '\n'), ('r', '\r'), ('v', '\x0b')]

/-- Reads a primitive behind its backslash. -/
def escaped? (flags : Flags) : List Char → Option (Primitive × List Char)
  | [] => none
  | 'x' :: rest => numbered? flags 2 rest
  | 'u' :: rest => numbered? flags 4 rest
  | 'U' :: rest => numbered? flags 8 rest
  | c :: rest =>
      if isEscapable c then some (.literal c false, rest)
      else if ['d', 's', 'w'].contains c then some (.named false, rest)
      else if ['D', 'S', 'W'].contains c then some (.named true, rest)
      else if ['A', 'z'].contains c then some (.assertion false, rest)
      else if ['b', 'B', '<', '>'].contains c then some (.assertion true, rest)
      else (controls.lookup c).map fun control => (.literal control false, rest)

/-- Whether a pattern may hold a primitive outside of classes. Characters have no other case without
a table, nothing may match a single byte of a longer character, and only ASCII has named classes. -/
def isAllowed (flags : Flags) : Primitive → Bool
  | .literal c asByte => if flags.unicode then !flags.foldsCase else !asByte || c.toNat < 128
  | .dot => flags.unicode
  | .assertion aboutWords => !aboutWords || !flags.unicode
  | .named negated => !flags.unicode && !negated

/-- Whether a class may hold a primitive as a member. A class of bytes holds ASCII characters. -/
def isMember (flags : Flags) : Primitive → Bool
  | .literal c _ => if flags.unicode then !flags.foldsCase else c.toNat < 128
  | .named negated => !flags.unicode && !negated
  | .dot | .assertion _ => false

end Primitive
end Pattern
end TileRules
