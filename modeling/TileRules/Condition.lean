import TileRules.Leaf
import TileRules.Mode

/-!
# Condition — boolean trees over leaves

A condition is a binary tree: leaves are packed predicates and every other node is an operator. The
tree has no bound on its depth; only flattening (`TileRules.Flat`) looks no further than three
levels.

- `Condition.eval` gives a tree its meaning under an assignment of truth to leaves;
- `Condition.negate` negates it and keeps the shape of every operator (`eval_negate`);
- `Condition.branches` is one step down the tree, where a leaf stays where it is.
-/

namespace TileRules

inductive Condition
  | leaf (leaf : Leaf)
  | op (mode : Mode) (first second : Condition)
  deriving DecidableEq, Repr

namespace Condition

/-- The predicate that the neighbour in this direction, at this distance, is this tile. Parts that
do not fit are masked. -/
def tileAt (tile direction distance : UInt32) : Condition :=
  .leaf (Leaf.ofParts tile direction distance)

/-! ## Looking at the root -/

def mode? : Condition → Option Mode
  | .leaf _ => none
  | .op mode _ _ => some mode

def leaf? : Condition → Option Leaf
  | .leaf l => some l
  | .op _ _ _ => none

def children? : Condition → Option (Condition × Condition)
  | .leaf _ => none
  | .op _ first second => some (first, second)

/-- One step down on either side. A leaf stands for both of its own sides. -/
def branches : Condition → Condition × Condition
  | .leaf l => (.leaf l, .leaf l)
  | .op _ first second => (first, second)

/-- Number of operators on the longest path; a bare leaf has depth zero. -/
def depth : Condition → Nat
  | .leaf _ => 0
  | .op _ first second => 1 + max first.depth second.depth

/-! ## Meaning -/

def eval (truth : Leaf → Bool) : Condition → Bool
  | .leaf l => truth l
  | .op mode first second => mode.apply (first.eval truth) (second.eval truth)

/-- Logical negation: a leaf becomes the NAND of itself with itself, and an operator keeps its
operands under the complementary mode. -/
def negate : Condition → Condition
  | .leaf l => .op .nand (.leaf l) (.leaf l)
  | .op mode first second => .op mode.complement first second

@[simp]
theorem eval_negate (truth : Leaf → Bool) (c : Condition) :
    c.negate.eval truth = !(c.eval truth) := by
  cases c with
  | leaf l =>
      simp [negate, eval, Mode.apply]
  | op mode first second =>
      simp [negate, eval]

/-! ## Text -/

/-- A leaf by its number, and an operator as its name over its two operands. -/
def text : Condition → String
  | .leaf l => toString l.bits
  | .op mode first second => s!"{mode.name}({first.text},{second.text})"

end Condition
end TileRules
