import TileRules.Text.Lowercase.Table
import TileRules.Text.Ranges

/-!
# Lowercase — small letters of a text

Every capital is replaced by its small letter. Two characters are special: the capital I with a dot
becomes two characters, and a capital sigma becomes a final sigma at the end of a word, that is,
where a cased letter stands before it and none after it, characters that words may hold beside
letters being passed over.
-/

namespace TileRules
namespace Text

/-- The small letter of a single character that has one. -/
def smallLetter (c : Char) : Char :=
  match lowercaseRuns.find? fun (first, last, step, _) =>
      first ≤ c.toNat && c.toNat ≤ last && (c.toNat - first) % step == 0 with
  | some (_, _, _, distance) => Char.ofNat (c.toNat + distance).toNat
  | none => c

/-- Whether the first character that is not case-ignorable has a case. -/
def meetsCased (chars : List Char) : Bool :=
  match chars.dropWhile fun c => inRanges caseIgnorableRanges c.toNat with
  | [] => false
  | c :: _ => inRanges casedRanges c.toNat

/-- The small letters of `rest`, where `before` holds the characters in front of it, last first. -/
def lowercaseFrom (before : List Char) : (rest : List Char) → List Char
  | [] => []
  | c :: rest =>
      let small :=
        if c == 'Σ' then
          if meetsCased before && !meetsCased rest then ['ς'] else ['σ']
        else if c == 'İ' then
          ['i', '\u0307']
        else
          [smallLetter c]
      small ++ lowercaseFrom (c :: before) rest

/-- The text in small letters. -/
def lowercase (text : String) : String :=
  String.ofList (lowercaseFrom [] text.toList)

/-- Whether two texts differ in the case of ASCII letters at most. -/
def sameIgnoringCase (a b : String) : Bool :=
  a.toList.map Char.toLower == b.toList.map Char.toLower

end Text
end TileRules
