import TileRules.Condition
import TileRules.Packed

/-!
# Flat — conditions cut down to three levels

An evaluator reads every condition as a complete tree of three levels: seven operators and the eight
leaves below them. The fifteen positions are numbered level by level, and the children of position
`i` stand at `2 * i + 1` and `2 * i + 2`:

```
                0
        1               2
    3       4       5       6
  7   8   9  10  11  12  13  14
```

A leaf above the bottom level is repeated on both sides under an AND, which keeps its meaning. An
operator at the bottom level cannot be kept: the leaf that never matches takes its place.

- `Flat.slots` fills the fifteen positions of a tree from the root down;
- `Flat.ofTree` reads modes, leaves and the number of lost operators off them;
- `Flat.toTree` is the complete tree again, and `Flat.eval` its meaning.
-/

namespace TileRules

open Layout

/-- What to do with operators below the third level. -/
inductive DepthPolicy
  /-- Put the leaf that never matches in their place. -/
  | truncate
  /-- Refuse the tree. -/
  | reject
  deriving DecidableEq, Repr, Inhabited

namespace DepthPolicy

def all : List DepthPolicy :=
  [.truncate, .reject]

/-- The name in documents. -/
def name : DepthPolicy → String
  | .truncate => "truncate"
  | .reject => "reject"

/-- The name in events. -/
def label : DepthPolicy → String
  | .truncate => "Truncate"
  | .reject => "Reject"

end DepthPolicy

/-- A condition in the fixed shape of the evaluator. -/
structure Flat where
  modes : Vector Mode 7
  leaves : Vector Leaf 8
  /-- Leaf slots whose operator was lost. -/
  truncated : Nat
  deriving DecidableEq, Repr

namespace Flat

/-! ## From a tree -/

/-- Writes the two branches of position `i` to its children. -/
def expand (slots : Vector Condition 15) (i : Fin 7) :
    Vector Condition 15 :=
  let branches := (slots.get (i.castLE (by decide))).branches
  (slots.set (2 * i.val + 1) branches.1 (by have := i.isLt; omega)).set (2 * i.val + 2) branches.2
    (by have := i.isLt; omega)

/-- The nodes at the fifteen positions: the root is put everywhere, and then every operator position
in turn hands its branches to its children. -/
def slots (tree : Condition) : Vector Condition 15 :=
  (List.finRange 7).foldl expand (Vector.replicate 15 tree)

/-- Cuts a tree down to its first three levels. -/
def ofTree (tree : Condition) : Flat :=
  let nodes := slots tree
  let bottom := Vector.ofFn fun j : Fin 8 =>
    nodes.get (j.natAdd 7)
  { modes := Vector.ofFn fun i : Fin 7 =>
      (nodes.get (i.castLE (by decide))).mode?.getD .and
    leaves := bottom.map fun node => node.leaf?.getD Leaf.never
    truncated := bottom.toList.countP fun node => node.leaf?.isNone }

/-! ## Back to a tree -/

/-- The complete tree at position `i`, `height` levels above the leaves. -/
def treeAt (f : Flat) : (height i : Nat) → Condition
  | 0, i => .leaf (f.leaves[i - 7]?.getD Leaf.never)
  | height + 1, i =>
      .op (f.modes[i]?.getD .and) (treeAt f height (2 * i + 1)) (treeAt f height (2 * i + 2))

/-- The complete tree with these modes and leaves. -/
def toTree (f : Flat) : Condition :=
  f.treeAt 3 0

/-- The value of position `i`, `height` levels above the leaves. -/
def valueAt (truth : Leaf → Bool) (f : Flat) : (height i : Nat) → Bool
  | 0, i => truth (f.leaves[i - 7]?.getD Leaf.never)
  | height + 1, i =>
      (f.modes[i]?.getD .and).apply
        (valueAt truth f height (2 * i + 1)) (valueAt truth f height (2 * i + 2))

/-- The meaning of the complete tree. -/
def eval (truth : Leaf → Bool) (f : Flat) : Bool :=
  f.valueAt truth 3 0

/-- The complete tree means what its modes and leaves mean. -/
theorem eval_treeAt (truth : Leaf → Bool) (f : Flat) (height i : Nat) :
    (f.treeAt height i).eval truth = f.valueAt truth height i := by
  induction height generalizing i with
  | zero => rfl
  | succ height ih => simp [treeAt, valueAt, Condition.eval, ih]

@[simp]
theorem eval_toTree (truth : Leaf → Bool) (f : Flat) : f.toTree.eval truth = f.eval truth :=
  eval_treeAt truth f 3 0

/-! ## The mode field -/

/-- The fourteen bits of the modes; mode `i` stands at bit `2 * i`. -/
def modeBits (f : Flat) : UInt32 :=
  packFields 2 (f.modes.toList.map Mode.bits)

end Flat
end TileRules
