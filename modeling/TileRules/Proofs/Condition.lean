import TileRules.Condition
import TileRules.Proofs.Leaf

/-!
# Condition — leaves of nine bits, and trees cut off at a level

Rows have nine bits for a leaf and three levels for operators. This module says which trees keep
their leaves in such rows, and what is left of a tree whose operators are only kept down to a level.

- `Condition.Fits` holds of the trees whose leaves all have nine bits;
- `Condition.cut` puts the leaf that never matches in place of every operator at a level, and
  changes nothing in a tree that is no deeper (`Condition.cut_eq_self`).
-/

namespace TileRules

/-! ## Trees with leaves of nine bits -/

namespace Condition

/-- Every leaf of the tree has nine bits. -/
def Fits : Condition → Prop
  | .leaf l => l.Fits
  | .op _ first second => first.Fits ∧ second.Fits

instance decidableFits : (c : Condition) → Decidable c.Fits
  | .leaf l => inferInstanceAs (Decidable l.Fits)
  | .op _ first second =>
      @instDecidableAnd first.Fits second.Fits (decidableFits first) (decidableFits second)

theorem Fits.branches {c : Condition} (h : c.Fits) : c.branches.1.Fits ∧ c.branches.2.Fits := by
  cases c with
  | leaf l =>
      exact ⟨h, h⟩
  | op mode first second =>
      exact h

theorem Fits.leaf?_getD {c : Condition} (h : c.Fits) : (c.leaf?.getD Leaf.never).Fits := by
  cases c with
  | leaf l =>
      exact h
  | op mode first second =>
      exact Leaf.fits_never

/-! ## Cutting -/

/-- The tree with the leaf that never matches in place of every operator `levels` edges below the
root. -/
def cut : (levels : Nat) → Condition → Condition
  | _, .leaf l => .leaf l
  | 0, .op _ _ _ => .leaf Leaf.never
  | levels + 1, .op mode first second => .op mode (first.cut levels) (second.cut levels)

@[simp]
theorem cut_leaf (levels : Nat) (l : Leaf) : (leaf l).cut levels = leaf l := by
  cases levels <;> rfl

@[simp]
theorem cut_zero (c : Condition) : c.cut 0 = leaf (c.leaf?.getD Leaf.never) := by
  cases c <;> rfl

@[simp]
theorem cut_succ_op (levels : Nat) (mode : Mode) (first second : Condition) :
    (op mode first second).cut (levels + 1) = op mode (first.cut levels) (second.cut levels) :=
  rfl

theorem cut_eq_self {c : Condition} {levels : Nat} (h : c.depth ≤ levels) : c.cut levels = c := by
  induction c generalizing levels with
  | leaf l =>
      exact cut_leaf levels l
  | op mode first second ihFirst ihSecond =>
      cases levels with
      | zero =>
          simp only [depth] at h
          omega
      | succ levels =>
          simp only [depth] at h
          have hfirst : first.depth ≤ levels := by omega
          have hsecond : second.depth ≤ levels := by omega
          rw [cut_succ_op, ihFirst hfirst, ihSecond hsecond]

end Condition
end TileRules
