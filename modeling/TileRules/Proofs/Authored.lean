import TileRules.Reaction
import TileRules.Proofs.Attempts
import TileRules.Proofs.Condition

/-!
# Authored — what the block of a reaction holds while conditions are added

A reaction starts with a result tile and a bias, and conditions are offered to it one after another.
Some of them are refused: a tree that is too deep where depth is checked, and every condition behind
the sixteenth. The block then holds the conditions that were taken, in order, and unset rows behind
them.

- `Draft` is a reaction as it is authored, and `Draft.conditions` are the conditions it takes;
- `Reaction.Carries` is the invariant, and `Reaction.offer_cases` says everything that one offer
  can do;
- `Draft.carries` is the invariant behind a whole draft.
-/

namespace TileRules

open Layout

/-- A weighted condition as it is offered to a reaction. -/
structure Addition where
  tree : Condition
  value : Int
  policy : DepthPolicy
  deriving DecidableEq

/-- A row as it stands in a block, ten bits higher. -/
def Row.raised (r : Row) : Row :=
  { r with header := r.header <<< headerShift }

/-- The row that a condition takes in a block. -/
def Addition.row (a : Addition) : Row :=
  (flatten a.tree a.value).raised

namespace Reaction

def offer (r : Reaction) (a : Addition) : Except RuleError Reaction :=
  r.addConditionWith a.tree a.value a.policy

end Reaction

/-- A reaction as it is authored: where it starts, and what is offered to it in order. -/
structure Draft where
  resultTile : UInt32
  bias : Int
  additions : List Addition

namespace Draft

def start (d : Draft) : Reaction :=
  Reaction.new d.resultTile d.bias

/-- The reaction behind all offers. -/
def reaction (d : Draft) : Reaction :=
  attempts Reaction.offer d.start d.additions

/-- The offers that were taken, in order. -/
def conditions (d : Draft) : List Addition :=
  accepted Reaction.offer d.start d.additions

/-- Every tree that is offered is built from nine-bit leaves. -/
def Fits (d : Draft) : Prop :=
  ∀ a ∈ d.additions, a.tree.Fits

instance (d : Draft) : Decidable d.Fits :=
  inferInstanceAs (Decidable (∀ a ∈ d.additions, a.tree.Fits))

end Draft

/-! ## One offer -/

/-- Packing refuses a tree only where depth is checked and a part of the tree would be lost. -/
theorem flattenWith_cases (tree : Condition) (value : Int) (policy : DepthPolicy) :
    (policy = .reject ∧ 0 < (Flat.ofTree tree).truncated ∧
      flattenWith tree value policy = .error (.treeTooDeep (Flat.ofTree tree).truncated)) ∨
    (¬ (policy = .reject ∧ 0 < (Flat.ofTree tree).truncated) ∧
      flattenWith tree value policy = .ok (flatten tree value)) := by
  cases policy with
  | truncate =>
      refine .inr ⟨?_, rfl⟩
      rintro ⟨hpolicy, _⟩
      cases hpolicy
  | reject =>
      rw [flattenWith, flattenStrict]
      by_cases hlost : 0 < (Flat.ofTree tree).truncated
      · rw [if_pos hlost]
        exact .inl ⟨rfl, hlost, rfl⟩
      · rw [if_neg hlost]
        exact .inr ⟨fun h => hlost h.2, rfl⟩

namespace Reaction

/-- The reaction with one more condition. -/
def take (r : Reaction) (a : Addition) (free : r.conditionCount < 16) : Reaction :=
  { r with
    block := ⟨r.block.rows.set r.conditionCount
      (withReactionBits r.conditionCount (reactionBits r.resultTile r.bias) a.row) free⟩
    conditionCount := r.conditionCount + 1 }

/-- Everything that one offer does to a reaction. -/
theorem offer_cases (r : Reaction) (a : Addition) :
    (16 ≤ r.conditionCount ∧ r.offer a = .error (.capacityExceeded .conditions)) ∨
    (r.conditionCount < 16 ∧ a.policy = .reject ∧ 0 < (Flat.ofTree a.tree).truncated ∧
      r.offer a = .error (.treeTooDeep (Flat.ofTree a.tree).truncated)) ∨
    ∃ free : r.conditionCount < 16, ¬ (a.policy = .reject ∧ 0 < (Flat.ofTree a.tree).truncated) ∧
      r.offer a = .ok (r.take a free) := by
  by_cases free : r.conditionCount < 16
  · right
    rcases flattenWith_cases a.tree a.value a.policy with ⟨hpolicy, hlost, hrow⟩ | ⟨hkept, hrow⟩
    · refine .inl ⟨free, hpolicy, hlost, ?_⟩
      rw [offer, addConditionWith, dif_pos free, hrow]
      rfl
    · refine .inr ⟨free, hkept, ?_⟩
      rw [offer, addConditionWith, dif_pos free, hrow]
      rfl
  · refine .inl ⟨Nat.le_of_not_lt free, ?_⟩
    rw [offer, addConditionWith, dif_neg free]

/-! ## The invariant -/

/-- The reaction stands as these conditions leave it. -/
structure Carries (r : Reaction) (resultTile : UInt32) (bias : Int) (list : List Addition) :
    Prop where
  resultTile_eq : r.resultTile = resultTile
  bias_eq : r.bias = bias
  count : r.conditionCount = list.length
  length_le : list.length ≤ 16
  rows : ∀ {i : Nat} (h : i < 16), r.block.rows[i] =
    withReactionBits i (reactionBits resultTile bias) (inSlot Addition.row unsetRow list i)

theorem carries_new (resultTile : UInt32) (bias : Int) :
    Carries (new resultTile bias) resultTile bias [] := by
  refine ⟨rfl, rfl, rfl, Nat.zero_le 16, ?_⟩
  intro i h
  simp only [new, unsetBlock, Vector.getElem_ofFn]
  rfl

theorem Carries.take {r : Reaction} {resultTile : UInt32} {bias : Int} {list : List Addition}
    (h : r.Carries resultTile bias list) (a : Addition) (free : r.conditionCount < 16) :
    (r.take a free).Carries resultTile bias (list ++ [a]) := by
  have hcount := h.count
  refine ⟨h.resultTile_eq, h.bias_eq, ?_, ?_, ?_⟩
  · rw [List.length_append, List.length_singleton, ← hcount]
    rfl
  · rw [List.length_append, List.length_singleton]
    omega
  · intro i hi
    simp only [Reaction.take, Vector.getElem_set, h.resultTile_eq, h.bias_eq, inSlot_concat]
    -- The condition goes into the row behind those in use, and no other row changes.
    by_cases hnext : r.conditionCount = i
    · rw [if_pos hnext, if_pos (hnext.symm.trans hcount), hnext]
    · rw [if_neg hnext, if_neg (fun heq => hnext (hcount.trans heq.symm)), h.rows hi]

theorem Carries.offer {r next : Reaction} {resultTile : UInt32} {bias : Int} {list : List Addition}
    (h : r.Carries resultTile bias list) {a : Addition} (hstep : r.offer a = .ok next) :
    next.Carries resultTile bias (list ++ [a]) := by
  rcases r.offer_cases a with ⟨_, hfail⟩ | ⟨_, _, _, hfail⟩ | ⟨free, _, htaken⟩
  · rw [hfail] at hstep
    cases hstep
  · rw [hfail] at hstep
    cases hstep
  · rw [htaken] at hstep
    cases hstep
    exact h.take a free

end Reaction

/-! ## Drafts -/

namespace Draft

theorem carries (d : Draft) : d.reaction.Carries d.resultTile d.bias d.conditions := by
  refine attempts_induction (P := fun list r => Reaction.Carries r d.resultTile d.bias list) ?_ ?_
    d.additions
  · exact Reaction.carries_new d.resultTile d.bias
  · intro done r a next h hstep
    exact h.offer hstep

theorem mem_additions {d : Draft} {a : Addition} (h : a ∈ d.conditions) : a ∈ d.additions :=
  mem_of_mem_accepted h

end Draft
end TileRules
