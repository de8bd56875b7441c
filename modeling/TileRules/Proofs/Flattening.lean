import TileRules.Proofs.Row

/-!
# Flattening — a tree means what its row says

A row is read as a complete tree of three levels. `Row.eval` is this reading, and the main statement
compares it with the tree that was flattened: a row means the tree cut at the third level, and a
tree of at most three levels is not cut at all.

- `eval_row_flatten`: the meaning survives packing, for leaves of nine bits;
- `flattening_preserves_meaning`: the flat condition, its row and the cut tree mean the same.
-/

namespace TileRules

/-- The flat condition that is read back from a row. -/
def Row.flat (r : Row) : Flat :=
  { modes := r.modes, leaves := r.leaves, truncated := 0 }

/-- The meaning of the complete tree with the modes and leaves of a row. -/
def Row.eval (truth : Leaf → Bool) (r : Row) : Bool :=
  r.flat.eval truth

/-- The modes and the truth of the leaves are all that counts for the meaning. -/
theorem Flat.valueAt_congr {truth truth' : Leaf → Bool} {f g : Flat} (hmodes : f.modes = g.modes)
    (hleaves : ∀ j : Nat, truth (f.leaves[j]?.getD Leaf.never) =
      truth' (g.leaves[j]?.getD Leaf.never)) (height i : Nat) :
    f.valueAt truth height i = g.valueAt truth' height i := by
  induction height generalizing i with
  | zero =>
      exact hleaves (i - 7)
  | succ height ih =>
      simp only [valueAt, hmodes, ih]

theorem eval_row_pack (truth : Leaf → Bool) {f : Flat}
    (hfit : ∀ (j : Nat) (hj : j < 8), (f.leaves[j]).Fits) (value : Int) :
    (f.pack value).eval truth = f.eval truth := by
  have hleaves : (f.pack value).flat.leaves = f.leaves := Row.leaves_pack hfit value
  exact Flat.valueAt_congr (Row.modes_pack f value) (fun j => by rw [hleaves]) 3 0

theorem eval_row_flatten (truth : Leaf → Bool) {tree : Condition} (hfit : tree.Fits)
    (value : Int) : (flatten tree value).eval truth = (tree.cut 3).eval truth := by
  have hleaves : ∀ (j : Nat) (hj : j < 8), ((Flat.ofTree tree).leaves[j]).Fits :=
    fun _ hj => Flat.fits_leaves_ofTree hfit hj
  calc (flatten tree value).eval truth
      = (Flat.ofTree tree).eval truth := eval_row_pack truth hleaves value
    _ = (tree.cut 3).eval truth := Flat.eval_ofTree truth tree

/-- Flattening keeps the meaning of a tree down to its third level. An operator there reads as the
leaf that never matches, and a tree without such operators keeps its whole meaning. -/
theorem flattening_preserves_meaning (truth : Leaf → Bool) (tree : Condition) (hfit : tree.Fits)
    (value : Int) :
    (Flat.ofTree tree).eval truth = (tree.cut 3).eval truth ∧
      (flatten tree value).eval truth = (tree.cut 3).eval truth ∧
        (tree.depth ≤ 3 →
          (Flat.ofTree tree).eval truth = tree.eval truth ∧
            (flatten tree value).eval truth = tree.eval truth) := by
  have hflat := Flat.eval_ofTree truth tree
  have hrow := eval_row_flatten truth hfit value
  refine ⟨hflat, hrow, ?_⟩
  intro hdepth
  have hcut : tree.cut 3 = tree := Condition.cut_eq_self hdepth
  exact ⟨by rw [hflat, hcut], by rw [hrow, hcut]⟩

/-- A tree of four levels on its left side and of one on its right. -/
def lopsided : Condition :=
  .op .nand
    (.op .or
      (.op .nor
        (.op .and (.tileAt 1 0 1) (.tileAt 20 3 2))
        (.leaf (Leaf.ofBits 497)))
      (.tileAt 5 6 1))
    (.tileAt 31 0 2)

theorem lopsided_keeps_its_meaning :
    lopsided.Fits ∧
      (Flat.ofTree lopsided).eval (·.tile == 5) = (lopsided.cut 3).eval (·.tile == 5) ∧
        (flatten lopsided (-20)).eval (·.tile == 5) = (lopsided.cut 3).eval (·.tile == 5) := by
  have hfit : lopsided.Fits := by decide
  have h := flattening_preserves_meaning (·.tile == 5) lopsided hfit (-20)
  exact ⟨hfit, h.1, h.2.1⟩

end TileRules
