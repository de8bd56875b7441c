import TileRules.Condition.Bisection

/-!
# Shared — conditions whose nodes have an identity

One authored condition may be used by many others, and an author may ask whether two conditions are
one node or only look alike. `Shared` is a condition tree whose every node carries a label; a label
is given to a node once, by `Labelling`, so nodes of one label are one node.

- `Shared.tree` forgets the labels;
- the builders (`leaf`, `op`, `negate`, `combine`) take new labels for the nodes that they make and
  keep those of their operands.
-/

namespace TileRules

/-- A condition with a label on every node. -/
inductive Shared
  | leaf (label : Nat) (leaf : Leaf)
  | op (label : Nat) (mode : Mode) (first second : Shared)
  deriving Repr

/-- Construction of labelled nodes; the state is the next unused label. -/
abbrev Labelling := StateM Nat

/-- Takes an unused label. -/
def Labelling.fresh : Labelling Nat :=
  modifyGet fun next => (next, next + 1)

namespace Shared

def label : Shared → Nat
  | .leaf label _ => label
  | .op label _ _ _ => label

/-- The condition without its labels. -/
def tree : Shared → Condition
  | .leaf _ l => .leaf l
  | .op _ mode first second => .op mode first.tree second.tree

/-- Whether both are one node. -/
def same (a b : Shared) : Bool :=
  a.label == b.label

/-- Whether both have the same tree. One node equals itself without a look at its operands. -/
def alike (a b : Shared) : Bool :=
  a.same b ||
    match a, b with
    | .leaf _ l, .leaf _ m => l == m
    | .op _ mode first second, .op _ mode' first' second' =>
        mode == mode' && first.alike first' && second.alike second'
    | _, _ => false

/-! ## Building -/

def ofLeaf (l : Leaf) : Labelling Shared := do
  return .leaf (← Labelling.fresh) l

def ofOp (mode : Mode) (first second : Shared) : Labelling Shared := do
  return .op (← Labelling.fresh) mode first second

/-- Negation, as `Condition.negate`: a leaf is used for both operands, so these are one node. -/
def negate : Shared → Labelling Shared
  | .leaf label l => ofOp .nand (.leaf label l) (.leaf label l)
  | .op _ mode first second => ofOp mode.complement first second

/-- Joins the items at every cut, with one new node for each. -/
def joinCuts (mode : Mode) : Bisection Shared → Labelling Shared
  | .item a => return a
  | .cut left right => do
      let first ← joinCuts mode left
      let second ← joinCuts mode right
      ofOp mode first second

/-- A balanced combination, as `Condition.combine`; a single item comes back as the same node. -/
def combine (mode : Mode) (items : List Shared) : ExceptT RuleError Labelling Shared :=
  match Bisection.ofList? items with
  | none => throw (.invalidArgument .emptyCombination)
  | some cuts => liftM (joinCuts mode cuts)

end Shared
end TileRules
