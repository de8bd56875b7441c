import TileRules.Json.Reader

/-!
# Json grammar — the texts of a document

The grammar says which characters are a document, without saying how they are read: how strings and
numbers are spelled, and how values are put together, with white space wherever it may stand. One
document has many texts.

- `Joins` is the text of code points, and `SpellsString` adds the spellings with escapes;
- `IsNumber` are the literals of numbers;
- `Spells` is the grammar of values.
-/

namespace TileRules
namespace Json

/-! ## Strings -/

/-- The code points are those of this text; a character beyond 16 bits may be written as the two
halves of a surrogate pair. -/
inductive Joins : List Nat → List Char → Prop
  | nil : Joins [] []
  | char {codes : List Nat} {text : List Char} (c : Char) :
      Joins codes text → Joins (c.toNat :: codes) (c :: text)
  | pair {codes : List Nat} {text : List Char} {high low : Nat} {c : Char} :
      isHighHalf high = true → isLowHalf low = true →
        c.toNat = 0x10000 + (high - 0xd800) * 0x400 + (low - 0xdc00) →
          Joins codes text → Joins (high :: low :: codes) (c :: text)

/-- The characters stand for these code points inside a string. -/
inductive SpellsCodes : List Nat → List Char → Prop
  | nil : SpellsCodes [] []
  | plain {codes : List Nat} {chars : List Char} {c : Char} :
      c ≠ '"' → c ≠ '\\' → ¬ c.toNat < 0x20 → SpellsCodes codes chars →
        SpellsCodes (c.toNat :: codes) (c :: chars)
  | sign {codes : List Nat} {chars : List Char} {e c : Char} :
      signEscape? e = some c → SpellsCodes codes chars →
        SpellsCodes (c.toNat :: codes) ('\\' :: e :: chars)
  | number {codes : List Nat} {chars : List Char} {a b c d : Char} {n : Nat} :
      hexQuad? a b c d = some n → SpellsCodes codes chars →
        SpellsCodes (n :: codes) ('\\' :: 'u' :: a :: b :: c :: d :: chars)

/-- The characters are a string with this text, or one without a text. -/
def SpellsString (text : Option String) (chars : List Char) : Prop :=
  ∃ codes inner, SpellsCodes codes inner ∧
    (∀ s : String, text = some s ↔ Joins codes s.toList) ∧ chars = '"' :: (inner ++ ['"'])

/-! ## Numbers -/

/-- At least one digit, and nothing else. -/
structure IsDigits (chars : List Char) : Prop where
  ne_nil : chars ≠ []
  digits : ∀ c ∈ chars, isDigit c = true

inductive IsInteger : List Char → Prop
  | zero : IsInteger ['0']
  | digits {chars : List Char} : IsDigits chars → chars.head? ≠ some '0' → IsInteger chars

inductive IsFraction : List Char → Prop
  | none : IsFraction []
  | digits {chars : List Char} : IsDigits chars → IsFraction ('.' :: chars)

inductive IsSigned : List Char → Prop
  | plain {chars : List Char} : IsDigits chars → IsSigned chars
  | plus {chars : List Char} : IsDigits chars → IsSigned ('+' :: chars)
  | minus {chars : List Char} : IsDigits chars → IsSigned ('-' :: chars)

inductive IsExponent : List Char → Prop
  | none : IsExponent []
  | lower {chars : List Char} : IsSigned chars → IsExponent ('e' :: chars)
  | upper {chars : List Char} : IsSigned chars → IsExponent ('E' :: chars)

inductive IsMagnitude : List Char → Prop
  | parts {whole fraction exponent : List Char} : IsInteger whole → IsFraction fraction →
      IsExponent exponent → IsMagnitude (whole ++ fraction ++ exponent)

/-- The literals of numbers. -/
inductive IsNumber : List Char → Prop
  | plain {chars : List Char} : IsMagnitude chars → IsNumber chars
  | minus {chars : List Char} : IsMagnitude chars → IsNumber ('-' :: chars)

/-! ## Values -/

/-- White space between the parts of a document, or nothing. -/
def Gap (chars : List Char) : Prop :=
  ∀ c ∈ chars, isSpace c = true

/-- Parts with a comma between any two of them. -/
def commas : List (List Char) → List Char
  | [] => []
  | [part] => part
  | part :: next :: parts => part ++ ',' :: commas (next :: parts)

/-- A member of an object, with the characters of its name and of its value. -/
structure MemberText where
  name : Option String
  nameChars : List Char
  value : Json
  valueChars : List Char

namespace MemberText

def member (m : MemberText) : Option String × Json :=
  (m.name, m.value)

def chars (m : MemberText) : List Char :=
  m.nameChars ++ ':' :: m.valueChars

end MemberText

/-- The name of a member, with white space on both sides. -/
def SpellsName (name : Option String) (chars : List Char) : Prop :=
  ∃ before inner behind, Gap before ∧ SpellsString name inner ∧ Gap behind ∧
    chars = before ++ (inner ++ behind)

/-- The characters are this document, with white space wherever it may stand. -/
inductive Spells : Json → List Char → Prop
  | null : Spells .null ['n', 'u', 'l', 'l']
  | yes : Spells (.bool true) ['t', 'r', 'u', 'e']
  | no : Spells (.bool false) ['f', 'a', 'l', 's', 'e']
  | number {literal : List Char} : IsNumber literal → Spells (.number literal) literal
  | string {text : Option String} {chars : List Char} :
      SpellsString text chars → Spells (.string text) chars
  | array {parts : List (Json × List Char)} {gap : List Char} :
      (∀ part ∈ parts, Spells part.1 part.2) → Gap gap →
        Spells (.array (parts.map (·.1))) ('[' :: (commas (parts.map (·.2)) ++ (gap ++ [']'])))
  | object {parts : List MemberText} {gap : List Char} :
      (∀ m ∈ parts, SpellsName m.name m.nameChars) → (∀ m ∈ parts, Spells m.value m.valueChars) →
        Gap gap → Spells (.object (parts.map MemberText.member))
          ('{' :: (commas (parts.map MemberText.chars) ++ (gap ++ ['}'])))
  | spaced {before behind chars : List Char} {j : Json} :
      Gap before → Gap behind → Spells j chars → Spells j (before ++ (chars ++ behind))

end Json
end TileRules
