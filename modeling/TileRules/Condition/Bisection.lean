import TileRules.Condition

/-!
# Bisection — combining many conditions into a balanced tree

A list is cut in half, each half is cut again, and so on down to single items. Combining conditions
along these cuts keeps the tree as low as it can be, which matters because only three levels survive
flattening.

- `Bisection.ofList?` cuts a list, and fails on the empty list only;
- `Condition.combine` puts one operator at every cut. A single item comes back as it is: wrapping it
  would add a level.
-/

namespace TileRules

/-- The cuts of a list that was halved down to its items. -/
inductive Bisection (α : Type)
  | item (a : α)
  | cut (left right : Bisection α)
  deriving Repr

namespace Bisection

variable {α β : Type}

/-- Halves the list until single items are left; the first half is the shorter one. -/
def ofList? (items : List α) : Option (Bisection α) :=
  match items with
  | [] => none
  | [a] => some (.item a)
  | a :: b :: rest =>
      match ofList? ((a :: b :: rest).take ((rest.length + 2) / 2)),
          ofList? ((a :: b :: rest).drop ((rest.length + 2) / 2)) with
      | some left, some right => some (.cut left right)
      | _, _ => none
termination_by items.length
decreasing_by
  all_goals simp <;> omega

/-- The items from left to right. -/
def toList : Bisection α → List α
  | .item a => [a]
  | .cut left right => left.toList ++ right.toList

/-- Replaces every item and joins the results at every cut. -/
def join (onItem : α → β) (onCut : β → β → β) : Bisection α → β
  | .item a => onItem a
  | .cut left right => onCut (left.join onItem onCut) (right.join onItem onCut)

end Bisection

namespace Condition

/-- Combines the items under one mode into a balanced tree. -/
def combine (mode : Mode) (items : List Condition) : Except RuleError Condition :=
  match Bisection.ofList? items with
  | none => .error (.invalidArgument .emptyCombination)
  | some cuts => .ok (cuts.join id (.op mode))

/-- The conjunction of the items. -/
def all (items : List Condition) : Except RuleError Condition :=
  combine .and items

/-- The disjunction of the items. -/
def any (items : List Condition) : Except RuleError Condition :=
  combine .or items

end Condition
end TileRules
