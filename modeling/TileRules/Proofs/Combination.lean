import TileRules.Proofs.Flattening
import TileRules.Proofs.Shared

/-!
# Combination — conjunctions and disjunctions of many conditions

Conditions are combined by operators of one mode on top of them. The operators are the cuts of a
list that is halved again and again: there is one less than there are items, the items stay what
they are and keep their order, and all of them stand at nearly the same level.

- `Condition.eval_join`: a mode that reads a list like its halves reads the items of a combination;
- `Condition.Combines` says what a combination is, and `Condition.combines_join` that cuts in the
  middle make one;
- `combinations_are_correct_and_balanced` is about every list, with and without labels.
-/

namespace TileRules

namespace Condition

variable {α : Type} {truth : Leaf → Bool}

/-! ## Meaning -/

/-- A value of lists that a mode puts together from the values of two parts is the value of a
combination under this mode. -/
theorem eval_join {mode : Mode} {f : α → Condition} (value : List α → Bool)
    (hitem : ∀ a, value [a] = (f a).eval truth)
    (hparts : ∀ items items', value (items ++ items') = mode.apply (value items) (value items'))
    (cuts : Bisection α) : (cuts.join f (.op mode)).eval truth = value cuts.toList := by
  induction cuts with
  | item a =>
      exact (hitem a).symm
  | cut left right ihLeft ihRight =>
      rw [Bisection.join, eval, ihLeft, ihRight, Bisection.toList, hparts]

theorem eval_join_and (truth : Leaf → Bool) (cuts : Bisection Condition) :
    (cuts.join id (.op .and)).eval truth = cuts.toList.all (·.eval truth) := by
  refine eval_join (List.all · (·.eval truth)) ?_ ?_ cuts
  · intro c
    simp
  · intro items items'
    rw [List.all_append, Mode.apply]

theorem eval_join_or (truth : Leaf → Bool) (cuts : Bisection Condition) :
    (cuts.join id (.op .or)).eval truth = cuts.toList.any (·.eval truth) := by
  refine eval_join (List.any · (·.eval truth)) ?_ ?_ cuts
  · intro c
    simp
  · intro items items'
    rw [List.any_append, Mode.apply]

/-! ## Shape -/

/-- What a combination of items under a mode is made of, and how deep it is. -/
structure Combines (mode : Mode) (items : List Condition) (tree : Condition) : Prop where
  /-- The items stand in their order below operators of the mode, with as many operators above each
  of them as the logarithm of their number says, rounded down or up. -/
  shape : ∃ cuts : Bisection Condition, tree = cuts.join id (.op mode) ∧ cuts.toList = items ∧
    cuts.cutCount = items.length - 1 ∧
      ∀ p ∈ cuts.levels 0, p.2 = Nat.log 2 items.length ∨ p.2 = Nat.clog 2 items.length
  clog_le_depth : Nat.clog 2 items.length ≤ tree.depth
  depth_le : ∀ largest ∈ (items.map depth).max?, tree.depth ≤ Nat.clog 2 items.length + largest
  depth_of_leaves : (∀ c ∈ items, c.leaf?.isSome) → tree.depth = Nat.clog 2 items.length

theorem depth_eq_zero_of_leaf? {c : Condition} (h : c.leaf?.isSome) : c.depth = 0 := by
  cases c with
  | leaf l =>
      rfl
  | op mode first second =>
      cases h

/-- Cuts in the middle make a combination. -/
theorem combines_join (mode : Mode) {cuts : Bisection Condition} (h : cuts.Halving) :
    (cuts.join id (.op mode)).Combines mode cuts.toList := by
  have hroom : cuts.toList.length ≤ 2 ^ Nat.clog 2 cuts.toList.length :=
    Nat.le_pow_clog (by decide) _
  have hlow : Nat.clog 2 cuts.toList.length ≤ (cuts.join id (.op mode)).depth :=
    Nat.clog_le_of_le_pow (length_toList_le mode id cuts)
  refine ⟨⟨cuts, rfl, rfl, ?_, fun p hp => h.level_eq hp⟩, hlow, ?_, ?_⟩
  · rw [cuts.length_toList, Nat.add_sub_cancel]
  · intro largest hlargest
    have hdepth := (List.max?_eq_some_iff.1 hlargest).2
    exact depth_join_le mode id h hroom fun c hc => hdepth c.depth (List.mem_map_of_mem hc)
  · intro hleaves
    have hhigh := depth_join_le mode id h hroom fun c hc =>
      Nat.le_of_eq (depth_eq_zero_of_leaf? (hleaves c hc))
    exact Nat.le_antisymm hhigh hlow

end Condition

namespace Condition

variable {mode : Mode} {items : List Condition}

theorem combine_eq_error_iff :
    combine mode items = .error (.invalidArgument .emptyCombination) ↔ items = [] := by
  constructor
  · intro herror
    by_contra hne
    rcases exists_combine_cuts mode hne with ⟨cuts, -, -, hok⟩
    rw [herror] at hok
    cases hok
  · rintro rfl
    rw [combine, Bisection.ofList?_nil]

/-- Whatever is combined was cut in the middle. -/
theorem exists_cuts_of_combine {tree : Condition} (h : combine mode items = .ok tree) :
    ∃ cuts : Bisection Condition, cuts.toList = items ∧ cuts.Halving ∧
      tree = cuts.join id (.op mode) := by
  have hne : items ≠ [] := by
    intro hnil
    rw [combine_eq_error_iff.2 hnil] at h
    cases h
  rcases exists_combine_cuts mode hne with ⟨cuts, hitems, hhalves, hok⟩
  rw [h] at hok
  exact ⟨cuts, hitems, hhalves, Except.ok.inj hok⟩

end Condition

/-- Combining fails on an empty list only, and keeps the meaning, the order and the nodes of what it
combines below as few levels of operators as it can.

The middle parts are about conjunctions and disjunctions. The last part is about items with labels:
the new operators take one label each, from the next unused one on, and the nodes below them are the
items. -/
theorem combinations_are_correct_and_balanced (items : List Condition) :
    (∀ mode, Condition.combine mode items = .error (.invalidArgument .emptyCombination) ↔
        items = []) ∧
      (items ≠ [] → ∀ mode, ∃ tree, Condition.combine mode items = .ok tree ∧
        tree.Combines mode items) ∧
      (∀ tree, Condition.all items = .ok tree →
        ∀ truth, tree.eval truth = items.all (·.eval truth)) ∧
      (∀ tree, Condition.any items = .ok tree →
        ∀ truth, tree.eval truth = items.any (·.eval truth)) ∧
      ∀ (mode : Mode) (nodes : List Shared) (next : Nat), nodes.map Shared.tree = items →
        items ≠ [] → ∃ (s : Shared) (cuts : Bisection Shared),
          (Shared.combine mode nodes).run.result next = (.ok s, next + (items.length - 1)) ∧
            Condition.combine mode items = .ok s.tree ∧ cuts.toList = nodes ∧
              Shared.Joins mode cuts s (List.range' next (items.length - 1)) := by
  refine ⟨fun mode => Condition.combine_eq_error_iff, ?_, ?_, ?_, ?_⟩
  · intro hne mode
    rcases Condition.exists_combine_cuts mode hne with ⟨cuts, rfl, hhalves, hok⟩
    exact ⟨_, hok, Condition.combines_join mode hhalves⟩
  · intro tree hall truth
    rcases Condition.exists_cuts_of_combine hall with ⟨cuts, rfl, -, rfl⟩
    exact Condition.eval_join_and truth cuts
  · intro tree hany truth
    rcases Condition.exists_cuts_of_combine hany with ⟨cuts, rfl, -, rfl⟩
    exact Condition.eval_join_or truth cuts
  · rintro mode nodes next rfl hne
    have hnodes : nodes ≠ [] := fun hnil => hne (List.map_eq_nil_iff.2 hnil)
    rw [List.length_map]
    exact Shared.exists_combine mode hnodes next

/-- Two trees and three leaves. -/
def fiveConditions : List Condition :=
  [lopsided, .tileAt 3 0 1, .op .nor (.tileAt 4 1 1) (.tileAt 5 1 2), .tileAt 3 0 1, .tileAt 6 7 2]

/-- Four operators are put on top of the five conditions, which are as deep as the first of them. -/
theorem fiveConditions_are_balanced :
    fiveConditions ≠ [] ∧ ∃ tree, Condition.any fiveConditions = .ok tree ∧
      tree.Combines .or fiveConditions ∧ tree.depth ≤ 7 ∧
        ∀ truth, tree.eval truth = fiveConditions.any (·.eval truth) := by
  have hne : fiveConditions ≠ [] := List.cons_ne_nil _ _
  rcases combinations_are_correct_and_balanced fiveConditions with ⟨-, hcombines, -, hany, -⟩
  rcases hcombines hne .or with ⟨tree, htree, hshape⟩
  have hclog : Nat.clog 2 fiveConditions.length ≤ 3 := Nat.clog_le_of_le_pow (by decide)
  have hdepth := hshape.depth_le 4 (by decide)
  exact ⟨hne, tree, htree, hshape, by omega, hany tree htree⟩

end TileRules
