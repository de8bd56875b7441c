import TileRules.Condition.Shared
import TileRules.Proofs.Bisection

/-!
# Shared — the nodes that a construction makes and those that it keeps

A construction takes new labels for the nodes that it makes, one after the other, and the nodes that
it is given stay what they are. Without its labels the result is the condition that the same
construction makes of conditions without labels.

- `Labelling.result` is what a construction makes of the next unused label;
- `Shared.tree_negate` and `Shared.alike_of_tree_eq`: negating forgets the labels of nothing but the
  root, and nodes of one tree are alike whatever their labels are;
- `Shared.Joins` tells the new nodes of a combination from its items, and `Shared.exists_combine`
  says which labels the new nodes have.
-/

namespace TileRules

namespace Labelling

variable {α β : Type}

/-- What a construction makes if `next` is the next unused label, together with the next unused
label behind it. -/
def result (build : Labelling α) (next : Nat) : α × Nat :=
  build.run next

theorem result_bind (build : Labelling α) (rest : α → Labelling β) (next : Nat) :
    result (build >>= rest) next = (rest (build.result next).1).result (build.result next).2 :=
  rfl

end Labelling

namespace Shared

open Labelling

/-! ## Trees without labels -/

theorem result_ofOp (mode : Mode) (first second : Shared) (next : Nat) :
    (ofOp mode first second).result next = (.op next mode first second, next + 1) :=
  rfl

theorem tree_negate (s : Shared) (next : Nat) :
    (s.negate.result next).1.tree = s.tree.negate := by
  cases s <;> rfl

/-- Labels can make nodes alike, but they cannot make them differ. -/
theorem alike_of_tree_eq {a b : Shared} (h : a.tree = b.tree) : a.alike b = true := by
  induction a generalizing b with
  | leaf label l =>
      cases b with
      | leaf label' l' =>
          simp only [tree, Condition.leaf.injEq] at h
          simp [alike, h]
      | op label' mode' first' second' =>
          simp [tree] at h
  | op label mode first second ihFirst ihSecond =>
      cases b with
      | leaf label' l' =>
          simp [tree] at h
      | op label' mode' first' second' =>
          simp only [tree, Condition.op.injEq] at h
          rcases h with ⟨hmode, hfirst, hsecond⟩
          simp [alike, hmode, ihFirst hfirst, ihSecond hsecond]

/-! ## Combinations -/

/-- The node has the items of the cuts at its bottom and an operator of the mode for every cut. The
list has the labels of these operators, in the order in which they are made. -/
inductive Joins (mode : Mode) : Bisection Shared → Shared → List Nat → Prop
  | item (s : Shared) : Joins mode (.item s) s []
  | cut {left right : Bisection Shared} {first second : Shared} {labels labels' : List Nat}
      (label : Nat) (hleft : Joins mode left first labels)
      (hright : Joins mode right second labels') :
      Joins mode (.cut left right) (.op label mode first second) (labels ++ labels' ++ [label])

theorem Joins.tree_eq {mode : Mode} {cuts : Bisection Shared} {s : Shared} {labels : List Nat}
    (h : Joins mode cuts s labels) : s.tree = cuts.join tree (.op mode) := by
  induction h with
  | item s =>
      rfl
  | cut label hleft hright ihLeft ihRight =>
      rw [tree, ihLeft, ihRight, Bisection.join]

theorem exists_joinCuts (mode : Mode) (cuts : Bisection Shared) (next : Nat) :
    ∃ s, (joinCuts mode cuts).result next = (s, next + cuts.cutCount) ∧
      Joins mode cuts s (List.range' next cuts.cutCount) := by
  induction cuts generalizing next with
  | item s =>
      exact ⟨s, rfl, .item s⟩
  | cut left right ihLeft ihRight =>
      rcases ihLeft next with ⟨first, hfirst, hjoinsFirst⟩
      rcases ihRight (next + left.cutCount) with ⟨second, hsecond, hjoinsSecond⟩
      refine ⟨.op (next + left.cutCount + right.cutCount) mode first second, ?_, ?_⟩
      · rw [joinCuts, result_bind, hfirst, result_bind, hsecond, result_ofOp, Bisection.cutCount]
        simp only [Nat.add_assoc]
      · -- The operator of this cut is made last.
        have hlabels : List.range' next (left.cutCount + right.cutCount + 1) =
            List.range' next left.cutCount ++ List.range' (next + left.cutCount) right.cutCount ++
              [next + left.cutCount + right.cutCount] := by
          rw [List.range'_concat, ← List.range'_append_1]
          simp [Nat.add_assoc]
        rw [Bisection.cutCount, hlabels]
        exact .cut _ hjoinsFirst hjoinsSecond

/-- Combining makes one new node less than there are items, and keeps the items. -/
theorem exists_combine (mode : Mode) {nodes : List Shared} (hne : nodes ≠ []) (next : Nat) :
    ∃ (s : Shared) (cuts : Bisection Shared),
      (combine mode nodes).run.result next = (.ok s, next + (nodes.length - 1)) ∧
        Condition.combine mode (nodes.map tree) = .ok s.tree ∧ cuts.toList = nodes ∧
          Joins mode cuts s (List.range' next (nodes.length - 1)) := by
  rcases Bisection.exists_ofList? nodes hne with ⟨cuts, hcuts, rfl, -⟩
  rcases exists_joinCuts mode cuts next with ⟨s, hresult, hjoins⟩
  rw [cuts.length_toList, Nat.add_sub_cancel]
  refine ⟨s, cuts, ?_, ?_, rfl, hjoins⟩
  · have hrun : (combine mode cuts.toList).run.result next =
        (.ok ((joinCuts mode cuts).result next).1, ((joinCuts mode cuts).result next).2) := by
      rw [combine, hcuts]
      rfl
    rw [hrun, hresult]
  · rw [hjoins.tree_eq, Condition.combine_map mode tree hcuts]

end Shared
end TileRules
