import TileRules.Summary

/-!
# Summary text — reactions for a reader

A reaction is written as one line for itself and one line for every condition that can match: its
row, its value, the seven modes as signs, and the eight leaves.
-/

namespace TileRules

/-- Writes an integer with its sign, also when it is not negative. -/
def signedText (value : Int) : String :=
  if value < 0 then toString value else "+" ++ toString value

/-- Puts blanks before a text that is shorter than `width`. -/
def padLeft (width : Nat) (text : String) : String :=
  "".pushn ' ' (width - text.length) ++ text

/-- One line: row, value, modes in slot order, leaves. -/
def ConditionSummary.text (c : ConditionSummary) : String :=
  let modes := " ".intercalate (c.modes.toList.map Mode.sign)
  let leaves := ", ".intercalate (c.leaves.toList.map Leaf.text)
  s!"  [{padLeft 2 (toString c.row)}] value {padLeft 3 (signedText c.value)}  "
    ++ s!"modes {modes}  leaves {leaves}"

/-- The line of the reaction itself. -/
def ReactionSummary.heading (s : ReactionSummary) : String :=
  s!"{describeTile s.tile} slot {s.slot}: -> {describeTile s.resultTile} "
    ++ s!"(bias {signedText s.bias})"

/-- The heading and a line for every condition that can match, each with its line end. -/
def ReactionSummary.text (s : ReactionSummary) : String :=
  String.join ((s.heading :: s.activeConditions.map ConditionSummary.text).map (· ++ "\n"))

end TileRules
