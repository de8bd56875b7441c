import TileRules.Proofs.Flat

/-!
# Positive — cutting a tree without negation

An operator below the third level is replaced by the leaf that never matches. Where all operators
above it are AND and OR, a part of the tree that is false instead of true can only make the whole
tree false, so such a tree may lose matches when it is cut, but it never gains one. A NOR or a NAND
above the cut would turn the loss into a gain.

- `Condition.PositiveAbove` holds of the trees whose first levels have AND and OR only;
- `Condition.eval_of_eval_cut`: what matches behind the cut matches before it;
- `flattening_gains_no_match` says the same of the flat condition, with a match that is lost.
-/

namespace TileRules

/-! ## Operators without negation -/

/-- AND and OR; the other two operators negate. -/
def Mode.Positive (m : Mode) : Prop :=
  m = .and ∨ m = .or

instance (m : Mode) : Decidable m.Positive :=
  inferInstanceAs (Decidable (_ ∨ _))

/-- A positive operator keeps holding when its operands get true. -/
theorem Mode.Positive.apply_mono {m : Mode} (h : m.Positive) {a b a' b' : Bool}
    (ha : a = true → a' = true) (hb : b = true → b' = true) :
    m.apply a b = true → m.apply a' b' = true := by
  rcases h with rfl | rfl
  · intro hand
    simp only [Mode.apply, Bool.and_eq_true] at hand ⊢
    exact ⟨ha hand.1, hb hand.2⟩
  · intro hor
    simp only [Mode.apply, Bool.or_eq_true] at hor ⊢
    exact hor.imp ha hb

namespace Condition

/-! ## Trees without negation above a level -/

/-- Every operator less than `levels` edges below the root is positive; what stands further down
does not matter. -/
def PositiveAbove : (levels : Nat) → Condition → Prop
  | _, .leaf _ => True
  | 0, .op _ _ _ => True
  | levels + 1, .op mode first second =>
      mode.Positive ∧ first.PositiveAbove levels ∧ second.PositiveAbove levels

instance decidablePositiveAbove :
    (levels : Nat) → (c : Condition) → Decidable (c.PositiveAbove levels)
  | 0, .leaf _ | _ + 1, .leaf _ | 0, .op _ _ _ => isTrue trivial
  | levels + 1, .op mode first second =>
      have := decidablePositiveAbove levels first
      have := decidablePositiveAbove levels second
      inferInstanceAs (Decidable (mode.Positive ∧ _ ∧ _))

variable {truth : Leaf → Bool} {c : Condition} {levels : Nat}

/-- What matches behind the cut matches before it. -/
theorem eval_of_eval_cut (hnever : truth Leaf.never = false) (hpositive : c.PositiveAbove levels) :
    (c.cut levels).eval truth = true → c.eval truth = true := by
  induction c generalizing levels with
  | leaf l =>
      intro hmatch
      simpa using hmatch
  | op mode first second ihFirst ihSecond =>
      cases levels with
      | zero =>
          -- The operator is cut off, and the leaf in its place does not match.
          intro hmatch
          simp [eval, leaf?, hnever] at hmatch
      | succ levels =>
          rcases hpositive with ⟨hmode, hfirst, hsecond⟩
          exact hmode.apply_mono (ihFirst hfirst) (ihSecond hsecond)

end Condition

/-- An OR of five leaves that hangs to the left, one level too deep. -/
def leaningOr : Condition :=
  .op .or
    (.op .or
      (.op .or
        (.op .or (.tileAt 1 0 1) (.tileAt 2 1 1))
        (.tileAt 3 2 1))
      (.tileAt 4 3 1))
    (.tileAt 5 4 1)

/-- Flattening a tree with AND and OR in its first three levels gains no match, as long as the leaf
that never matches does not match. It can lose one. -/
theorem flattening_gains_no_match :
    (∀ (truth : Leaf → Bool) (tree : Condition), truth Leaf.never = false →
      tree.PositiveAbove 3 → (Flat.ofTree tree).eval truth = true → tree.eval truth = true) ∧
      ∃ (truth : Leaf → Bool) (tree : Condition), truth Leaf.never = false ∧
        tree.PositiveAbove 3 ∧ (Flat.ofTree tree).eval truth = false ∧ tree.eval truth = true := by
  constructor
  · intro truth tree hnever hpositive hmatch
    rw [Flat.eval_ofTree] at hmatch
    exact Condition.eval_of_eval_cut hnever hpositive hmatch
  · refine ⟨(·.tile == 1), leaningOr, by decide, by decide, ?_, by decide⟩
    rw [Flat.eval_ofTree]
    decide

/-- A NAND deep down is no matter, and the match on the other side is kept. -/
def deepNand : Condition :=
  .op .and
    (.op .or
      (.op .and
        (.op .nand (.tileAt 1 0 1) (.tileAt 2 1 1))
        (.tileAt 3 2 1))
      (.tileAt 4 3 1))
    (.tileAt 4 4 2)

theorem deepNand_gains_no_match :
    (Leaf.never.tile == 4) = false ∧ deepNand.PositiveAbove 3 ∧
      (Flat.ofTree deepNand).eval (·.tile == 4) = true ∧
        deepNand.eval (·.tile == 4) = true := by
  have hnever : (Leaf.never.tile == 4) = false := by decide
  have hpositive : deepNand.PositiveAbove 3 := by decide
  have hmatch : (Flat.ofTree deepNand).eval (·.tile == 4) = true := by
    rw [Flat.eval_ofTree]
    decide
  exact ⟨hnever, hpositive, hmatch,
    flattening_gains_no_match.1 (·.tile == 4) deepNand hnever hpositive hmatch⟩

end TileRules
