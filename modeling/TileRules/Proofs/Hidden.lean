import TileRules.Proofs.Decoding
import TileRules.Proofs.Flattening
import TileRules.Summary.Text

/-!
# Hidden — conditions that a summary leaves out

A summary leaves a condition out if all of its leaves are the one that never matches. The operators
still count: a NOR or a NAND of leaves that never match always holds. So what is left out has one
value wherever it is read, but this value need not be false.

- `ConditionSummary.eval_of_isUnset`: the value of such a condition is that of its operators over
  leaves that are false;
- `Flat.valueAt_of_monotone`: without NOR and NAND this value is false;
- `Draft.modes_decoded` finds the operators of an authored condition in the summary;
- `hidden_conditions_have_one_value` says for every reaction which value the conditions that are
  left out have, and `negated_never_is_hidden` is one that is left out and always holds.
-/

namespace TileRules

/-! ## Conditions without a leaf that can match -/

theorem ConditionSummary.isUnset_iff {c : ConditionSummary} :
    c.isUnset = true ↔ ∀ (j : Nat) (hj : j < 8), c.leaves[j] = Leaf.never := by
  simp [isUnset]

/-- Only the operators count if no leaf can match. -/
theorem ConditionSummary.eval_of_isUnset {c : ConditionSummary} (h : c.isUnset = true) {f : Flat}
    (hmodes : c.modes = f.modes) {truth : Leaf → Bool} (hnever : truth Leaf.never = false) :
    c.flat.eval truth = f.eval fun _ => false := by
  refine Flat.valueAt_congr hmodes (fun j => ?_) 3 0
  have hleaf : c.flat.leaves[j]?.getD Leaf.never = Leaf.never := by
    rcases Nat.lt_or_ge j 8 with hj | hj
    · rw [Vector.getElem?_eq_getElem hj]
      exact isUnset_iff.1 h j hj
    · rw [Vector.getElem?_eq_none hj]
      rfl
  rw [hleaf]
  exact hnever

/-- AND and OR do not make anything true of what is false. -/
theorem Flat.valueAt_of_monotone {f : Flat} (h : ∀ m ∈ f.modes, m = .and ∨ m = .or)
    (height i : Nat) : f.valueAt (fun _ => false) height i = false := by
  induction height generalizing i with
  | zero =>
      rfl
  | succ height ih =>
      have hmode : f.modes[i]?.getD .and = .and ∨ f.modes[i]?.getD .and = .or := by
        rcases Nat.lt_or_ge i 7 with hi | hi
        · rw [Vector.getElem?_eq_getElem hi]
          exact h _ (Vector.getElem_mem hi)
        · rw [Vector.getElem?_eq_none hi]
          exact .inl rfl
      rw [valueAt, ih, ih]
      rcases hmode with hand | hor
      · rw [hand]
        rfl
      · rw [hor]
        rfl

/-! ## Authored conditions -/

/-- The decoded operators are those of the tree, whether its leaves fit or not. -/
theorem Draft.modes_decoded (d : Draft) {i : Nat} (hi : i < 16) :
    (ConditionSummary.ofRow i d.reaction.block.rows[i]).modes =
      inSlot (fun a => (Flat.ofTree a.tree).modes) (Vector.replicate 7 .and) d.conditions i := by
  rw [d.carries.ofRow hi]
  rcases Nat.lt_or_ge i d.conditions.length with hused | hfree
  · rw [rowBefore, inSlot_of_lt _ _ hused, inSlot_of_lt _ _ hused]
    exact Row.modes_pack _ _
  · rw [rowBefore, inSlot_of_ge _ _ hfree, inSlot_of_ge _ _ hfree]
    exact congrArg ConditionSummary.modes (summary_blank i)

theorem ReactionSummary.isUnset_of_hidden {s : ReactionSummary} {c : ConditionSummary}
    (hc : c ∈ s.conditions) (hhidden : c ∉ s.activeConditions) : c.isUnset = true := by
  refine Decidable.not_not.1 fun hset => hhidden ?_
  rw [activeConditions, List.mem_filter]
  exact ⟨hc, by simpa using hset⟩

/-- A condition that the summary of a reaction leaves out has one value, as long as the leaf that
never matches is false: that of its tree, cut at the third level, with every leaf false. A row that
no condition has taken is false, and so is a tree without NOR and NAND. -/
theorem hidden_conditions_have_one_value (d : Draft) (t next : RuleTable) (id : UInt32)
    (hstored : t.addReaction id d.reaction = .ok next) (further : List (UInt32 × Reaction)) :
    ∃ s, (attempts RuleTable.register next further).decodeReaction id (t.reactionCount id) = .ok s ∧
      s.conditions.length = 16 ∧
        ∀ (i : Nat) (hi : i < s.conditions.length), s.conditions[i] ∉ s.activeConditions →
          ∀ truth : Leaf → Bool, truth Leaf.never = false →
            s.conditions[i].flat.eval truth =
                inSlot (fun a => (a.tree.cut 3).eval fun _ => false) false d.conditions i ∧
              ((∀ m ∈ s.conditions[i].modes, m = .and ∨ m = .or) →
                s.conditions[i].flat.eval truth = false) := by
  have hlength := ReactionSummary.length_conditions_ofBlock id (t.reactionCount id)
    d.reaction.block
  refine ⟨_, RuleTable.decodeReaction_of_block (RuleTable.block_of_stored hstored further), hlength,
    ?_⟩
  intro i hi hhidden truth hnever
  have hrow : i < 16 := by omega
  have hunset := ReactionSummary.isUnset_of_hidden (List.getElem_mem hi) hhidden
  have hmodes := d.modes_decoded hrow
  rw [ReactionSummary.getElem_conditions_ofBlock _ _ _ hrow hi] at hunset ⊢
  constructor
  · -- The row has the operators of its tree, or those of a row that was never taken.
    rcases Nat.lt_or_ge i d.conditions.length with hused | hfree
    · rw [inSlot_of_lt _ _ hused] at hmodes ⊢
      rw [ConditionSummary.eval_of_isUnset hunset hmodes hnever, Flat.eval_ofTree]
    · rw [inSlot_of_ge _ _ hfree] at hmodes ⊢
      rw [ConditionSummary.eval_of_isUnset (f := (ConditionSummary.unset i).flat) hunset hmodes
        hnever]
      rfl
  · intro hmonotone
    have hvalue := ConditionSummary.eval_of_isUnset hunset
      (f := (ConditionSummary.ofRow i d.reaction.block.rows[i]).flat) rfl hnever
    rw [hvalue]
    exact Flat.valueAt_of_monotone hmonotone 3 0

/-- A condition that holds wherever the leaf that never matches is false. -/
def negatedNever : Draft :=
  { resultTile := 7
    bias := 2
    additions := [⟨Condition.negate (.tileAt 31 0 1), 5, .reject⟩] }

theorem decodeReaction_negatedNever :
    ∃ next, RuleTable.empty.addReaction 4 negatedNever.reaction = .ok next ∧
      next.decodeReaction 4 0 = .ok (.ofConditions 4 0 7 2 negatedNever.additions) :=
  Draft.decodeReaction_first (by decide) 4 4 rfl

theorem activeConditions_negatedNever :
    (ReactionSummary.ofConditions 4 0 7 2 negatedNever.additions).activeConditions = [] := by
  decide +kernel

theorem negated_never_is_hidden :
    ∃ next s c, RuleTable.empty.addReaction 4 negatedNever.reaction = .ok next ∧
      next.decodeReaction 4 0 = .ok s ∧ s.activeConditions = [] ∧ s.text = s.heading ++ "\n" ∧
        c ∈ s.conditions ∧
          ∀ truth : Leaf → Bool, truth Leaf.never = false → c.flat.eval truth = true := by
  obtain ⟨next, hstored, hdecode⟩ := decodeReaction_negatedNever
  refine ⟨next, _, _, hstored, hdecode, activeConditions_negatedNever, ?_,
    List.mem_ofFn.2 ⟨0, rfl⟩, ?_⟩
  · rw [ReactionSummary.text, activeConditions_negatedNever]
    rfl
  · -- The tree is no deeper than one level, so cutting it changes nothing.
    intro truth hnever
    have hcut : ((Condition.negate (.tileAt 31 0 1)).cut 3).eval truth = !(truth Leaf.never) :=
      Condition.eval_negate truth (.leaf Leaf.never)
    have hflat := Flat.eval_ofTree truth (Condition.negate (.tileAt 31 0 1))
    rw [hcut, hnever] at hflat
    exact hflat

theorem negatedNever_has_one_value :
    ∃ next, RuleTable.empty.addReaction 4 negatedNever.reaction = .ok next ∧
      ∃ s, next.decodeReaction 4 0 = .ok s ∧
        ∃ hi : 0 < s.conditions.length, s.conditions[0] ∉ s.activeConditions ∧
          s.conditions[0].flat.eval (fun _ => false) = true := by
  obtain ⟨next, hstored, hdecode⟩ := decodeReaction_negatedNever
  obtain ⟨s, hs, hlength, hvalue⟩ := hidden_conditions_have_one_value negatedNever RuleTable.empty
    next 4 hstored []
  have hsame : s = .ofConditions 4 0 7 2 negatedNever.additions :=
    Except.ok.inj (hs.symm.trans hdecode)
  have hhidden : ∀ c, c ∉ s.activeConditions := by
    rw [hsame, activeConditions_negatedNever]
    exact fun _ => List.not_mem_nil
  exact ⟨next, hstored, s, hs, by omega, hhidden _, (hvalue 0 (by omega) (hhidden _) _ rfl).1⟩

end TileRules
