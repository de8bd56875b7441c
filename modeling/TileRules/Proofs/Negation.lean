import TileRules.Proofs.Depth
import TileRules.Proofs.Flattening
import TileRules.Proofs.Shared

/-!
# Negation — a negated tree is flattened to the negated flat condition

Negation changes the root of a tree and nothing below it: the root gets the complementary operator,
where a leaf counts as an AND of itself with itself, which is also what flattening makes of it. So it
is no matter whether a tree is negated before it is flattened or after it, and what flattening loses
of a tree that is too deep is lost of the negated tree too.

- `Condition.nodeAt_negate`: only the root of a tree is changed;
- `Flat.negate` takes the complement of the first mode, and `Flat.ofTree_negate` is the law above;
- `negation_is_exact` follows for trees, for flat conditions, for rows and for nodes with labels.
-/

namespace TileRules

/-! ## Trees -/

namespace Condition

theorem branches_negate (c : Condition) : c.negate.branches = c.branches := by
  cases c <;> rfl

/-- A leaf is negated like the AND that flattening makes of it. -/
theorem mode?_negate (c : Condition) : c.negate.mode? = some (c.mode?.getD .and).complement := by
  cases c <;> rfl

theorem branches_nodeAt_negate (c : Condition) (i : Nat) :
    (c.negate.nodeAt i).branches = (c.nodeAt i).branches := by
  induction i using Condition.nodeAt.induct with
  | case1 =>
      rw [nodeAt_zero, nodeAt_zero, branches_negate]
  | case2 i heven ih =>
      rw [nodeAt, nodeAt, if_pos heven, if_pos heven, ih]
  | case3 i hodd ih =>
      rw [nodeAt, nodeAt, if_neg hodd, if_neg hodd, ih]

theorem nodeAt_negate (c : Condition) {i : Nat} (h : i ≠ 0) : c.negate.nodeAt i = c.nodeAt i := by
  cases i with
  | zero =>
      exact absurd rfl h
  | succ i =>
      rw [nodeAt, nodeAt, branches_nodeAt_negate]

theorem negate_negate {c : Condition} (h : c.leaf? = none) : c.negate.negate = c := by
  cases c with
  | leaf l =>
      cases h
  | op mode first second =>
      simp [negate]

end Condition

/-! ## Flat conditions -/

namespace Flat

/-- The flat condition with the complementary operator at its root. -/
def negate (f : Flat) : Flat :=
  { f with
    modes := Vector.ofFn fun i =>
      if i = 0 then (f.modes.get i).complement else f.modes.get i }

@[simp]
theorem leaves_negate (f : Flat) : f.negate.leaves = f.leaves :=
  rfl

@[simp]
theorem truncated_negate (f : Flat) : f.negate.truncated = f.truncated :=
  rfl

theorem getElem_modes_negate (f : Flat) {i : Nat} (h : i < 7) :
    f.negate.modes[i] = if i = 0 then f.modes[i].complement else f.modes[i] := by
  simp only [negate, Vector.getElem_ofFn, get_eq_getElem, Fin.ext_iff]
  rfl

@[simp]
theorem negate_negate (f : Flat) : f.negate.negate = f := by
  refine Flat.ext ?_ rfl rfl
  apply Vector.ext
  intro i hi
  rw [getElem_modes_negate _ hi, getElem_modes_negate f hi]
  by_cases hroot : i = 0
  · rw [if_pos hroot, if_pos hroot, Mode.complement_complement]
  · rw [if_neg hroot, if_neg hroot]

theorem valueAt_negate (truth : Leaf → Bool) (f : Flat) (height : Nat) {i : Nat} (h : i ≠ 0) :
    f.negate.valueAt truth height i = f.valueAt truth height i := by
  induction height generalizing i with
  | zero =>
      rfl
  | succ height ih =>
      -- No position leads back to the root.
      have hleft : 2 * i + 1 ≠ 0 := Nat.succ_ne_zero _
      have hright : 2 * i + 2 ≠ 0 := Nat.succ_ne_zero _
      have hmode : f.negate.modes[i]? = f.modes[i]? := by
        rcases Nat.lt_or_ge i 7 with hi | hi
        · rw [Vector.getElem?_eq_getElem hi, Vector.getElem?_eq_getElem hi,
            getElem_modes_negate f hi, if_neg h]
        · rw [Vector.getElem?_eq_none hi, Vector.getElem?_eq_none hi]
      rw [valueAt, valueAt, hmode, ih hleft, ih hright]

theorem eval_eq_apply (truth : Leaf → Bool) (f : Flat) :
    f.eval truth = (f.modes.get 0).apply (f.valueAt truth 2 1) (f.valueAt truth 2 2) :=
  rfl

@[simp]
theorem eval_negate (truth : Leaf → Bool) (f : Flat) :
    f.negate.eval truth = !(f.eval truth) := by
  have hroot : f.negate.modes.get 0 = (f.modes.get 0).complement :=
    getElem_modes_negate f (Nat.zero_lt_succ 6)
  calc f.negate.eval truth
      = (f.negate.modes.get 0).apply (f.negate.valueAt truth 2 1) (f.negate.valueAt truth 2 2) :=
        eval_eq_apply truth f.negate
    _ = (f.modes.get 0).complement.apply (f.valueAt truth 2 1) (f.valueAt truth 2 2) := by
        rw [hroot, valueAt_negate truth f 2 (by decide), valueAt_negate truth f 2 (by decide)]
    _ = !((f.modes.get 0).apply (f.valueAt truth 2 1) (f.valueAt truth 2 2)) :=
        Mode.apply_complement _ _ _
    _ = !(f.eval truth) := by
        rw [eval_eq_apply]

/-- It does not matter whether a tree is negated first or flattened first. -/
theorem ofTree_negate (tree : Condition) : ofTree tree.negate = (ofTree tree).negate := by
  have hmodes : (ofTree tree.negate).modes = (ofTree tree).negate.modes := by
    apply Vector.ext
    intro i hi
    rw [getElem_modes_negate _ hi, getElem_modes_ofTree tree.negate hi,
      getElem_modes_ofTree tree hi]
    by_cases hroot : i = 0
    · rw [if_pos hroot, hroot, Condition.nodeAt_zero, Condition.nodeAt_zero,
        Condition.mode?_negate, Option.getD_some]
    · rw [if_neg hroot, Condition.nodeAt_negate tree hroot]
  have hleaves : (ofTree tree.negate).leaves = (ofTree tree).negate.leaves := by
    rw [leaves_negate]
    apply Vector.ext
    intro j hj
    rw [getElem_leaves_ofTree tree.negate hj, getElem_leaves_ofTree tree hj,
      Condition.nodeAt_negate tree (Nat.succ_ne_zero _)]
  have hlost : (ofTree tree.negate).truncated = (ofTree tree).negate.truncated := by
    rw [truncated_negate, truncated_ofTree, truncated_ofTree, Condition.operatorsAt_succ,
      Condition.branches_negate, ← Condition.operatorsAt_succ]
  exact Flat.ext hmodes hleaves hlost

end Flat

/-- Negation is exact for every tree, also for one that loses operators when it is flattened.

The first parts are about the tree itself, the middle parts about its flat form and its row, and the
last part about nodes with labels: their negation has the negated tree, and negating an operator
twice gives a node that is not told from the first one. -/
theorem negation_is_exact (tree : Condition) :
    (∀ truth, tree.negate.eval truth = !(tree.eval truth)) ∧
      tree.negate.depth = max 1 tree.depth ∧
      (tree.leaf? = none → tree.negate.negate = tree) ∧
      (∀ truth, (Flat.ofTree tree.negate).eval truth = !((Flat.ofTree tree).eval truth)) ∧
      (Flat.ofTree tree.negate).leaves = (Flat.ofTree tree).leaves ∧
      (Flat.ofTree tree.negate).truncated = (Flat.ofTree tree).truncated ∧
      (∀ value, flatten tree.negate.negate value = flatten tree value) ∧
      ∀ (s : Shared) (next later : Nat), s.tree = tree →
        (s.negate.result next).1.tree = tree.negate ∧
          (tree.leaf? = none →
            ((s.negate.result next).1.negate.result later).1.alike s = true) := by
  have hflat := Flat.ofTree_negate tree
  refine ⟨fun truth => Condition.eval_negate truth tree, tree.depth_negate,
    Condition.negate_negate, ?_, ?_, ?_, ?_, ?_⟩
  · intro truth
    rw [hflat, Flat.eval_negate]
  · rw [hflat, Flat.leaves_negate]
  · rw [hflat, Flat.truncated_negate]
  · intro value
    rw [flatten, flatten, Flat.ofTree_negate, hflat, Flat.negate_negate]
  · rintro s next later rfl
    refine ⟨s.tree_negate next, ?_⟩
    intro hop
    apply Shared.alike_of_tree_eq
    rw [Shared.tree_negate, Shared.tree_negate, Condition.negate_negate hop]

/-- The tree loses an operator on its left side, and its negation loses the same one. -/
theorem lopsided_is_negated_exactly :
    lopsided.leaf? = none ∧ lopsided.negate.negate = lopsided ∧
      0 < (Flat.ofTree lopsided).truncated ∧
        (Flat.ofTree lopsided.negate).truncated = (Flat.ofTree lopsided).truncated ∧
          (Flat.ofTree lopsided.negate).eval (·.tile == 5) =
            !((Flat.ofTree lopsided).eval (·.tile == 5)) := by
  have hop : lopsided.leaf? = none := rfl
  rcases negation_is_exact lopsided with ⟨-, -, htwice, hvalue, -, hlost, -, -⟩
  exact ⟨hop, htwice hop, Flat.truncated_pos_iff.2 (by decide), hlost, hvalue _⟩

end TileRules
