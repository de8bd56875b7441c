import Mathlib.Algebra.Group.Nat.Defs
import TileRules.Flat
import TileRules.Proofs.Condition

/-!
# Flat — what the walk over the fifteen positions finds

The walk hands the branches of every operator position to its children. `Condition.nodeAt` says
without a walk which node belongs to a position, and the walk puts exactly this node there.

- `Flat.get_slots`: position `i` holds the node at `i`;
- `Flat.valueAt_ofTree`: at any position, the complete tree means what is left of the node there
  once it is cut at the bottom level;
- `Flat.eval_ofTree`: the flat condition of a tree means the tree cut at the third level.
-/

namespace TileRules

/-! ## Nodes by position -/

namespace Condition

/-- The node at a position: the whole tree stands at 0, and the branches of the node at `i` stand at
`2 * i + 1` and `2 * i + 2`. -/
def nodeAt (tree : Condition) : Nat → Condition
  | 0 => tree
  | i + 1 =>
      if i % 2 = 0 then (nodeAt tree (i / 2)).branches.1 else (nodeAt tree (i / 2)).branches.2
termination_by i => i
decreasing_by all_goals omega

@[simp]
theorem nodeAt_zero (tree : Condition) : tree.nodeAt 0 = tree := by
  rw [nodeAt]

theorem nodeAt_left (tree : Condition) (i : Nat) :
    tree.nodeAt (2 * i + 1) = (tree.nodeAt i).branches.1 := by
  have heven : 2 * i % 2 = 0 := by omega
  have hhalf : 2 * i / 2 = i := by omega
  rw [nodeAt, if_pos heven, hhalf]

theorem nodeAt_right (tree : Condition) (i : Nat) :
    tree.nodeAt (2 * i + 2) = (tree.nodeAt i).branches.2 := by
  have hodd : ¬ (2 * i + 1) % 2 = 0 := by omega
  have hhalf : (2 * i + 1) / 2 = i := by omega
  rw [nodeAt, if_neg hodd, hhalf]

theorem Fits.nodeAt {tree : Condition} (h : tree.Fits) (i : Nat) : (tree.nodeAt i).Fits := by
  induction i using Condition.nodeAt.induct with
  | case1 =>
      rw [nodeAt_zero]
      exact h
  | case2 i heven ih =>
      rw [Condition.nodeAt, if_pos heven]
      exact ih.branches.1
  | case3 i hodd ih =>
      rw [Condition.nodeAt, if_neg hodd]
      exact ih.branches.2

end Condition

attribute [ext] Flat

namespace Flat

/-! ## The walk -/

theorem get_eq_getElem {α : Type} {n : Nat} (xs : Vector α n) (i : Fin n) :
    xs.get i = xs[i.val] :=
  rfl

theorem get_expand (slots : Vector Condition 15) (i : Fin 7) (j : Fin 15) :
    (expand slots i).get j =
      if j.val = 2 * i.val + 2 then (slots.get (i.castLE (by decide))).branches.2
      else if j.val = 2 * i.val + 1 then (slots.get (i.castLE (by decide))).branches.1
      else slots.get j := by
  simp only [expand, get_eq_getElem, Vector.getElem_set]
  -- The right child is written last, so its position is asked for first.
  split
  · rename_i h
    rw [if_pos h.symm]
  · rename_i h
    rw [if_neg (Ne.symm h)]
    split
    · rename_i h'
      rw [if_pos h'.symm]
    · rename_i h'
      rw [if_neg (Ne.symm h')]

/-- The positions after `steps` steps of the walk. -/
def walk (tree : Condition) (steps : Nat) : Vector Condition 15 :=
  ((List.finRange 7).take steps).foldl expand (Vector.replicate 15 tree)

theorem walk_succ (tree : Condition) {steps : Nat} (h : steps < 7) :
    walk tree (steps + 1) = expand (walk tree steps) ⟨steps, h⟩ := by
  have hlength : steps < (List.finRange 7).length := by
    simpa using h
  have hget : (List.finRange 7)[steps] = ⟨steps, h⟩ := by
    simp
  rw [walk, List.take_succ_eq_append_getElem hlength, hget, List.foldl_append]
  rfl

/-- After `steps` steps the first `2 * steps + 1` positions hold their nodes. No later step writes
there, and the next step only reads one of them. -/
theorem get_walk (tree : Condition) {steps : Nat} (h : steps ≤ 7) (j : Fin 15)
    (hj : j.val ≤ 2 * steps) : (walk tree steps).get j = tree.nodeAt j.val := by
  induction steps generalizing j with
  | zero =>
      have hzero : j.val = 0 := by omega
      rw [hzero, Condition.nodeAt_zero]
      simp [walk, get_eq_getElem]
  | succ steps ih =>
      -- The step reads a position that is settled, and settles its two children.
      have hread : (walk tree steps).get (Fin.castLE (by decide) (⟨steps, h⟩ : Fin 7)) =
          tree.nodeAt steps :=
        ih (by omega) _ (by simp only [Fin.val_castLE]; omega)
      rw [walk_succ tree h, get_expand, hread]
      dsimp only
      split
      · rename_i hright
        rw [hright, Condition.nodeAt_right]
      · split
        · rename_i hleft
          rw [hleft, Condition.nodeAt_left]
        · rename_i hright hleft
          exact ih (by omega) j (by omega)

theorem get_slots (tree : Condition) (j : Fin 15) : (slots tree).get j = tree.nodeAt j.val :=
  get_walk tree (Nat.le_refl 7) j (by omega)

/-! ## Modes and leaves -/

theorem getElem_modes_ofTree (tree : Condition) {i : Nat} (h : i < 7) :
    (ofTree tree).modes[i] = (tree.nodeAt i).mode?.getD .and := by
  simp only [ofTree, Vector.getElem_ofFn, get_slots, Fin.val_castLE]

theorem getElem_leaves_ofTree (tree : Condition) {j : Nat} (h : j < 8) :
    (ofTree tree).leaves[j] = (tree.nodeAt (j + 7)).leaf?.getD Leaf.never := by
  simp only [ofTree, Vector.getElem_map, Vector.getElem_ofFn, get_slots, Fin.val_natAdd,
    Nat.add_comm 7 j]

theorem fits_leaves_ofTree {tree : Condition} (h : tree.Fits) {j : Nat} (hj : j < 8) :
    ((ofTree tree).leaves[j]).Fits := by
  rw [getElem_leaves_ofTree tree hj]
  exact (h.nodeAt (j + 7)).leaf?_getD

/-! ## Meaning -/

/-- The bounds on `i` say that the positions `height` levels below it are the eight leaves, or some
of them. -/
theorem valueAt_ofTree (truth : Leaf → Bool) (tree : Condition) {height i : Nat}
    (hlow : 8 ≤ 2 ^ height * (i + 1)) (hhigh : 2 ^ height * (i + 2) ≤ 16) :
    (ofTree tree).valueAt truth height i = ((tree.nodeAt i).cut height).eval truth := by
  induction height generalizing i with
  | zero =>
      have hslot : i - 7 < 8 := by omega
      have hposition : i - 7 + 7 = i := by omega
      rw [valueAt, Vector.getElem?_eq_getElem hslot, getElem_leaves_ofTree tree hslot, hposition,
        Condition.cut_zero]
      rfl
  | succ height ih =>
      have hdouble (n : Nat) : 2 ^ (height + 1) * n = 2 ^ height * (2 * n) := by
        rw [Nat.pow_succ, Nat.mul_assoc]
      rw [hdouble] at hlow hhigh
      have hslot : i < 7 := by
        have hle : 1 * (2 * (i + 2)) ≤ 2 ^ height * (2 * (i + 2)) :=
          Nat.mul_le_mul_right _ (Nat.two_pow_pos height)
        omega
      have hleft := ih (i := 2 * i + 1) hlow
        (Nat.le_trans (Nat.mul_le_mul_left _ (by omega)) hhigh)
      have hright := ih (i := 2 * i + 2)
        (Nat.le_trans hlow (Nat.mul_le_mul_left _ (by omega))) hhigh
      rw [valueAt, Vector.getElem?_eq_getElem hslot, getElem_modes_ofTree tree hslot, hleft, hright,
        Condition.nodeAt_left, Condition.nodeAt_right]
      cases tree.nodeAt i with
      | leaf l =>
          -- A leaf above the bottom level stands on both sides of an AND.
          simp [Condition.branches, Condition.mode?, Condition.eval, Mode.apply]
      | op mode first second =>
          simp [Condition.branches, Condition.mode?, Condition.eval]

theorem eval_ofTree (truth : Leaf → Bool) (tree : Condition) :
    (ofTree tree).eval truth = (tree.cut 3).eval truth := by
  have h : (ofTree tree).valueAt truth 3 0 = ((tree.nodeAt 0).cut 3).eval truth :=
    valueAt_ofTree truth tree (by decide) (by decide)
  rwa [Condition.nodeAt_zero] at h

end Flat
end TileRules
