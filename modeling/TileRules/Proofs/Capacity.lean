import Mathlib.Data.List.Basic
import TileRules.Proofs.Combination
import TileRules.Proofs.Leaves

/-!
# Capacity — how many leaves a combination keeps

A flat condition has room for eight different leaves. A combination of at most eight leaves is never
too deep, because it is cut in the middle, and every leaf fills the slots below its place. From nine
leaves on some pairs of neighbours meet in an operator at the third level and are lost, one slot for
every leaf that is too much, until from sixteen leaves on no slot is left.

- `Condition.operatorsAt_join`: the operators that a level of a combination has;
- `Condition.leafLevels_join`: the leaves of a combination are its items;
- `combined_leaves_fill_eight_slots` says what is kept of every combination of leaves.
-/

namespace TileRules

namespace Condition

variable {cuts : Bisection Leaf}

theorem fits_join (mode : Mode) (h : ∀ l ∈ cuts.toList, l.Fits) :
    (cuts.join leaf (.op mode)).Fits := by
  induction cuts with
  | item l =>
      exact h l (List.mem_singleton_self l)
  | cut left right ihLeft ihRight =>
      rw [Bisection.toList, List.forall_mem_append] at h
      exact ⟨ihLeft h.1, ihRight h.2⟩

theorem leafLevels_join (mode : Mode) (cuts : Bisection Leaf) (level : Nat) :
    (cuts.join leaf (.op mode)).leafLevels level = cuts.levels level := by
  induction cuts generalizing level with
  | item l =>
      rfl
  | cut left right ihLeft ihRight =>
      rw [Bisection.join, leafLevels, ihLeft, ihRight, Bisection.levels]

/-- A level has one operator for every leaf that the level has no room for, as long as there is room
for the operators. -/
theorem operatorsAt_join (mode : Mode) (h : cuts.Halving) (level : Nat) :
    (cuts.join leaf (.op mode)).operatorsAt level =
      min (cuts.toList.length - 2 ^ level) (2 ^ level) := by
  induction cuts generalizing level with
  | item l =>
      have hroom := Nat.two_pow_pos level
      rw [Bisection.join, operatorsAt_leaf, Bisection.toList, List.length_singleton]
      omega
  | cut left right ihLeft ihRight =>
      rcases h with ⟨hle, hge, hleft, hright⟩
      have hitem := left.length_toList
      have hitem' := right.length_toList
      rw [Bisection.join, Bisection.toList, List.length_append]
      cases level with
      | zero =>
          rw [operatorsAt]
          omega
      | succ level =>
          -- The halves differ by one leaf at most, so no half has room while the other has none.
          rw [operatorsAt, ihLeft hleft, ihRight hright, Nat.pow_succ]
          omega

theorem flatMap_spread_sublist {bottom : Nat} {leaves : List (Leaf × Nat)}
    (h : ∀ p ∈ leaves, bottom ≤ p.2) :
    (leaves.flatMap (spread bottom)).Sublist (leaves.map Prod.fst) := by
  induction leaves with
  | nil =>
      exact .slnil
  | cons p leaves ih =>
      rw [List.forall_mem_cons] at h
      have honce : (spread bottom p).Sublist [p.1] := by
        rcases Nat.lt_or_eq_of_le h.1 with hdeep | hlevel
        · rw [spread_of_lt hdeep]
          exact List.nil_sublist _
        · rw [spread_of_le (Nat.le_of_eq hlevel.symm), hlevel, Nat.sub_self]
          exact .refl _
      exact honce.append (ih h.2)

theorem mem_flatMap_spread_iff {bottom : Nat} {leaves : List (Leaf × Nat)}
    (h : ∀ p ∈ leaves, p.2 ≤ bottom) {l : Leaf} :
    l ∈ leaves.flatMap (spread bottom) ↔ l ∈ leaves.map Prod.fst := by
  rw [List.mem_flatMap, List.mem_map]
  refine exists_congr fun p => and_congr_right fun hp => ?_
  rw [spread_of_le (h p hp), List.mem_replicate]
  constructor
  · rintro ⟨-, rfl⟩
    rfl
  · rintro rfl
    exact ⟨Nat.ne_of_gt (Nat.two_pow_pos _), rfl⟩

/-- What a combination of leaves looks like when it is flattened. -/
structure CombinesLeaves (leaves : List Leaf) (tree : Condition) : Prop where
  fits : tree.Fits
  leaves_eq : (tree.leafLevels 0).map Prod.fst = leaves
  truncated_eq : (Flat.ofTree tree).truncated = min (leaves.length - 8) 8
  level_le : leaves.length ≤ 8 → ∀ p ∈ tree.leafLevels 0, p.2 ≤ 3
  le_level : 8 ≤ leaves.length → ∀ p ∈ tree.leafLevels 0, 3 ≤ p.2

theorem combinesLeaves_join (mode : Mode) (h : cuts.Halving) (hfit : ∀ l ∈ cuts.toList, l.Fits) :
    (cuts.join leaf (.op mode)).CombinesLeaves cuts.toList where
  fits := fits_join mode hfit
  leaves_eq := by
    rw [leafLevels_join, Bisection.map_fst_levels]
  truncated_eq := by
    rw [Flat.truncated_ofTree]
    exact operatorsAt_join mode h 3
  level_le hfew p hp := by
    rw [leafLevels_join] at hp
    have hlevel := h.level_le_add (k := 3) hfew hp
    omega
  le_level hmany p hp := by
    rw [leafLevels_join] at hp
    have hlevel := h.add_le_level (k := 3) hmany hp
    omega

namespace CombinesLeaves

variable {leaves : List Leaf} {tree : Condition}

theorem leaves_flatten (h : tree.CombinesLeaves leaves) (value : Int) :
    (flatten tree value).leaves = (Flat.ofTree tree).leaves :=
  Row.leaves_pack (fun _ hj => Flat.fits_leaves_ofTree h.fits hj) value

/-- A combination of more than eight leaves is refused where depth is checked. -/
theorem flattenStrict_eq (h : tree.CombinesLeaves leaves) (value : Int) :
    flattenStrict tree value =
      if leaves.length ≤ 8 then .ok (flatten tree value)
      else .error (.treeTooDeep (min (leaves.length - 8) 8)) := by
  rw [flattenStrict, h.truncated_eq]
  by_cases hfew : leaves.length ≤ 8
  · rw [if_pos hfew, if_neg (by omega), flatten]
  · rw [if_neg hfew, if_pos (by omega)]

theorem toList_leaves (h : tree.CombinesLeaves leaves) (hfew : leaves.length ≤ 8) :
    (Flat.ofTree tree).leaves.toList = (tree.leafLevels 0).flatMap (spread 3) := by
  apply Flat.toList_leaves_ofTree
  rw [h.truncated_eq]
  omega

theorem mem_leaves_iff (h : tree.CombinesLeaves leaves) (hfew : leaves.length ≤ 8) {l : Leaf} :
    l ∈ (Flat.ofTree tree).leaves ↔ l ∈ leaves := by
  rw [← Vector.mem_toList_iff, h.toList_leaves hfew, mem_flatMap_spread_iff (h.level_le hfew),
    h.leaves_eq]

theorem kept_sublist (h : tree.CombinesLeaves leaves) (hmany : 8 ≤ leaves.length) :
    ((Flat.keptSlots tree).map (Flat.ofTree tree).leaves.get).Sublist leaves := by
  have hkept := flatMap_spread_sublist (h.le_level hmany)
  rwa [h.leaves_eq, ← Flat.map_get_keptSlots] at hkept

end CombinesLeaves
end Condition

/-- A combination of leaves keeps eight of them.

If there are no more, nothing is lost, and every leaf fills as many slots in a row as there are
below its place. If there are more, the slots that are kept hold leaves of the combination in their
order, and none of them twice. -/
theorem combined_leaves_fill_eight_slots (mode : Mode) (leaves : List Leaf) (hne : leaves ≠ [])
    (hfit : ∀ l ∈ leaves, l.Fits) (value : Int) :
    ∃ tree, Condition.combine mode (leaves.map .leaf) = .ok tree ∧
      (tree.leafLevels 0).map Prod.fst = leaves ∧
      (Flat.ofTree tree).truncated = min (leaves.length - 8) 8 ∧
      flattenStrict tree value =
        (if leaves.length ≤ 8 then .ok (flatten tree value)
        else .error (.treeTooDeep (min (leaves.length - 8) 8))) ∧
      (leaves.length ≤ 8 →
        (∀ p ∈ tree.leafLevels 0, p.2 ≤ 3) ∧
          (flatten tree value).leaves.toList =
            (tree.leafLevels 0).flatMap (fun p => List.replicate (2 ^ (3 - p.2)) p.1) ∧
          ∀ l, l ∈ (flatten tree value).leaves ↔ l ∈ leaves) ∧
      (8 < leaves.length →
        (Flat.keptSlots tree).length = 8 - (Flat.ofTree tree).truncated ∧
          ((Flat.keptSlots tree).map (flatten tree value).leaves.get).Sublist leaves) := by
  rcases Condition.exists_combine_map mode .leaf hne with ⟨cuts, rfl, hhalves, hcombine⟩
  have hshape := Condition.combinesLeaves_join mode hhalves hfit
  refine ⟨_, hcombine, hshape.leaves_eq, hshape.truncated_eq, hshape.flattenStrict_eq value, ?_, ?_⟩
  · intro hfew
    rw [hshape.leaves_flatten]
    refine ⟨hshape.level_le hfew, ?_, fun l => hshape.mem_leaves_iff hfew⟩
    -- No leaf is too deep to fill a slot.
    rw [hshape.toList_leaves hfew]
    exact List.flatMap_congr fun p hp => Condition.spread_of_le (hshape.level_le hfew p hp)
  · intro hmany
    rw [hshape.leaves_flatten]
    refine ⟨?_, hshape.kept_sublist (Nat.le_of_lt hmany)⟩
    have hslots := Flat.length_keptSlots (cuts.join .leaf (.op mode))
    omega

/-- Eleven leaves, one of them the leaf that never matches. -/
def elevenLeaves : List Leaf :=
  Leaf.never :: (List.range 10).map fun tile => Leaf.ofParts (UInt32.ofNat tile) 3 2

/-- Three operators are lost, and five of the leaves are kept. -/
theorem elevenLeaves_lose_three_slots :
    elevenLeaves ≠ [] ∧ (∀ l ∈ elevenLeaves, l.Fits) ∧
      ∃ tree, Condition.combine .or (elevenLeaves.map .leaf) = .ok tree ∧
        flattenStrict tree 5 = .error (.treeTooDeep 3) ∧ (Flat.keptSlots tree).length = 5 ∧
          ((Flat.keptSlots tree).map (flatten tree 5).leaves.get).Sublist elevenLeaves := by
  have hne : elevenLeaves ≠ [] := List.cons_ne_nil _ _
  have hfit : ∀ l ∈ elevenLeaves, l.Fits := by decide
  rcases combined_leaves_fill_eight_slots .or elevenLeaves hne hfit 5 with
    ⟨tree, htree, -, hlost, hstrict, -, hmany⟩
  rcases hmany (by decide) with ⟨hslots, hkept⟩
  rw [hlost] at hslots
  exact ⟨hne, hfit, tree, htree, hstrict, hslots, hkept⟩

end TileRules
