import TileRules.Proofs.Flat

/-!
# Depth — what stands below the third level

Three levels of operators have a place in a flat condition. An operator further down is lost, and
flattening counts the lost ones where it meets them: once for every position of the bottom level.

- `Condition.operatorsAt` counts the operators at a level by the paths that lead to them, and there
  are some exactly if the tree is deeper (`Condition.operatorsAt_pos_iff`);
- `Flat.truncated_ofTree`: flattening loses the operators at the third level, one by one;
- `Flat.ofTree_toTree`: a complete tree of three levels is flattened to the modes and leaves that it
  was made of, and loses nothing.
-/

namespace TileRules

namespace Condition

/-! ## Operators at a level -/

/-- Operators `level` edges below the root, counted once for every path that leads to one. -/
def operatorsAt : (level : Nat) → Condition → Nat
  | _, .leaf _ => 0
  | 0, .op _ _ _ => 1
  | level + 1, .op _ first second => first.operatorsAt level + second.operatorsAt level

@[simp]
theorem operatorsAt_leaf (level : Nat) (l : Leaf) : (leaf l).operatorsAt level = 0 := by
  cases level <;> rfl

theorem operatorsAt_zero (c : Condition) :
    c.operatorsAt 0 = if c.leaf?.isNone then 1 else 0 := by
  cases c <;> rfl

theorem operatorsAt_succ (level : Nat) (c : Condition) :
    c.operatorsAt (level + 1) =
      c.branches.1.operatorsAt level + c.branches.2.operatorsAt level := by
  cases c with
  | leaf l =>
      simp only [branches, operatorsAt_leaf]
  | op mode first second =>
      rfl

theorem operatorsAt_pos_iff {c : Condition} {level : Nat} :
    0 < c.operatorsAt level ↔ level < c.depth := by
  induction c generalizing level with
  | leaf l =>
      simp [depth]
  | op mode first second ihFirst ihSecond =>
      cases level with
      | zero =>
          simp only [operatorsAt, depth]
          omega
      | succ level =>
          have hfirst : 0 < first.operatorsAt level ↔ level < first.depth := ihFirst
          have hsecond : 0 < second.operatorsAt level ↔ level < second.depth := ihSecond
          simp only [operatorsAt, depth]
          omega

/-- Negation adds an operator to a bare leaf, and none to any other tree. -/
theorem depth_negate (c : Condition) : c.negate.depth = max 1 c.depth := by
  cases c with
  | leaf l =>
      rfl
  | op mode first second =>
      simp only [negate, depth]
      omega

/-- The positions `height` levels below a position, from left to right. -/
def positionsBelow : (height i : Nat) → List Nat
  | 0, i => [i]
  | height + 1, i => positionsBelow height (2 * i + 1) ++ positionsBelow height (2 * i + 2)

/-- A position stands for one path, so the operators at a level are those at its positions. -/
theorem operatorsAt_nodeAt (tree : Condition) (height i : Nat) :
    (tree.nodeAt i).operatorsAt height =
      ((positionsBelow height i).map tree.nodeAt).countP fun node => node.leaf?.isNone := by
  induction height generalizing i with
  | zero =>
      rw [operatorsAt_zero, positionsBelow, List.map_singleton, List.countP_singleton]
  | succ height ih =>
      -- The branches of the node are the nodes at the two positions below it.
      rw [operatorsAt_succ, ← nodeAt_left, ← nodeAt_right, ih, ih, positionsBelow, List.map_append,
        List.countP_append]

end Condition

namespace Flat

/-! ## Lost operators -/

theorem truncated_ofTree (tree : Condition) : (ofTree tree).truncated = tree.operatorsAt 3 := by
  have hcount := tree.operatorsAt_nodeAt 3 0
  rw [Condition.nodeAt_zero] at hcount
  rw [hcount]
  simp only [ofTree, get_slots]
  -- The bottom level is the eight positions behind the seven operators.
  rfl

theorem truncated_pos_iff {tree : Condition} : 0 < (ofTree tree).truncated ↔ 3 < tree.depth := by
  rw [truncated_ofTree, Condition.operatorsAt_pos_iff]

/-! ## Complete trees -/

theorem nodeAt_of_mem_positionsBelow {tree : Condition} {f : Flat} {levels height i j : Nat}
    (h : tree.nodeAt i = f.treeAt (height + levels) i)
    (hj : j ∈ Condition.positionsBelow levels i) : tree.nodeAt j = f.treeAt height j := by
  induction levels generalizing i with
  | zero =>
      rw [Condition.positionsBelow, List.mem_singleton] at hj
      rw [hj]
      exact h
  | succ levels ih =>
      -- The branches of a complete tree are the complete trees at the next two positions.
      have hbranches : (tree.nodeAt i).branches =
          (f.treeAt (height + levels) (2 * i + 1), f.treeAt (height + levels) (2 * i + 2)) := by
        rw [h]
        rfl
      rw [Condition.positionsBelow, List.mem_append] at hj
      rcases hj with hleft | hright
      · refine ih ?_ hleft
        rw [Condition.nodeAt_left, hbranches]
      · refine ih ?_ hright
        rw [Condition.nodeAt_right, hbranches]

theorem nodeAt_toTree (f : Flat) {levels height j : Nat} (h : height + levels = 3)
    (hj : j ∈ Condition.positionsBelow levels 0) : f.toTree.nodeAt j = f.treeAt height j := by
  refine nodeAt_of_mem_positionsBelow ?_ hj
  rw [Condition.nodeAt_zero, h]
  rfl

theorem mode?_nodeAt_toTree (f : Flat) {i : Nat} (hi : i < 7) :
    (f.toTree.nodeAt i).mode? = some f.modes[i] := by
  have hlevel : i ∈ Condition.positionsBelow 0 0 ∨ i ∈ Condition.positionsBelow 1 0 ∨
      i ∈ Condition.positionsBelow 2 0 := by
    simp only [Condition.positionsBelow, List.mem_append, List.mem_singleton]
    omega
  have hmode : ∀ height, (f.treeAt (height + 1) i).mode? = some f.modes[i] := by
    intro height
    rw [treeAt, Condition.mode?, Vector.getElem?_eq_getElem hi, Option.getD_some]
  rcases hlevel with h | h | h
  · rw [nodeAt_toTree f (show 3 + 0 = 3 from rfl) h, hmode]
  · rw [nodeAt_toTree f (show 2 + 1 = 3 from rfl) h, hmode]
  · rw [nodeAt_toTree f (show 1 + 2 = 3 from rfl) h, hmode]

theorem leaf?_nodeAt_toTree (f : Flat) {j : Nat} (hj : j < 8) :
    (f.toTree.nodeAt (j + 7)).leaf? = some f.leaves[j] := by
  have hbottom : j + 7 ∈ Condition.positionsBelow 3 0 := by
    simp only [Condition.positionsBelow, List.mem_append, List.mem_singleton]
    omega
  rw [nodeAt_toTree f (show 0 + 3 = 3 from rfl) hbottom, treeAt, Condition.leaf?,
    Nat.add_sub_cancel, Vector.getElem?_eq_getElem hj, Option.getD_some]

theorem operatorsAt_treeAt (f : Flat) (height i : Nat) :
    (f.treeAt height i).operatorsAt height = 0 := by
  induction height generalizing i with
  | zero =>
      rfl
  | succ height ih =>
      rw [treeAt, Condition.operatorsAt, ih, ih]

/-- A complete tree of three levels is flattened to what it was made of. -/
theorem ofTree_toTree (f : Flat) : ofTree f.toTree = { f with truncated := 0 } := by
  have hmodes : (ofTree f.toTree).modes = f.modes := by
    apply Vector.ext
    intro i hi
    rw [getElem_modes_ofTree f.toTree hi, mode?_nodeAt_toTree f hi, Option.getD_some]
  have hleaves : (ofTree f.toTree).leaves = f.leaves := by
    apply Vector.ext
    intro j hj
    rw [getElem_leaves_ofTree f.toTree hj, leaf?_nodeAt_toTree f hj, Option.getD_some]
  have hlost : (ofTree f.toTree).truncated = 0 := by
    rw [truncated_ofTree]
    exact operatorsAt_treeAt f 3 0
  exact Flat.ext hmodes hleaves hlost

end Flat
end TileRules
