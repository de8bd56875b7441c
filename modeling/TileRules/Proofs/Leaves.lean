import TileRules.Proofs.Depth

/-!
# Leaves — where flattening puts the leaves of a tree

A flat condition has eight leaf slots, one for each position of the bottom level. A leaf that stands
higher up is doubled at every level below its own, and a leaf that stands deeper has no slot: the
operator above it is lost, and its slot does not belong to any leaf of the tree.

- `Condition.leafLevels` lists the leaves of a tree with their levels, and `Condition.spread` is what
  a leaf fills of the bottom level;
- `Flat.keptSlots` are the slots whose node is a leaf, and `Flat.length_keptSlots` counts them;
- `Flat.map_get_keptSlots`: these slots hold the leaves of the tree, in their order and spread out;
- `Flat.toList_leaves_ofTree`: they are all the slots if nothing is lost.
-/

namespace TileRules

namespace Condition

/-! ## Leaves with their levels -/

/-- The leaves from left to right, each with its level; the counting starts at `level`. -/
def leafLevels : (level : Nat) → Condition → List (Leaf × Nat)
  | level, .leaf l => [(l, level)]
  | level, .op _ first second => first.leafLevels (level + 1) ++ second.leafLevels (level + 1)

variable {level bottom : Nat} {p : Leaf × Nat}

theorem level_le_of_mem_leafLevels {c : Condition} (h : p ∈ c.leafLevels level) : level ≤ p.2 := by
  induction c generalizing level with
  | leaf l =>
      rw [leafLevels, List.mem_singleton] at h
      exact Nat.le_of_eq (congrArg Prod.snd h).symm
  | op mode first second ihFirst ihSecond =>
      rw [leafLevels, List.mem_append] at h
      rcases h with hfirst | hsecond
      · exact Nat.le_of_succ_le (ihFirst hfirst)
      · exact Nat.le_of_succ_le (ihSecond hsecond)

/-! ## The bottom level -/

/-- What a leaf fills of the bottom level: it is doubled at every level below its own. -/
def spread (bottom : Nat) (p : Leaf × Nat) : List Leaf :=
  if p.2 ≤ bottom then List.replicate (2 ^ (bottom - p.2)) p.1 else []

theorem spread_of_le (h : p.2 ≤ bottom) :
    spread bottom p = List.replicate (2 ^ (bottom - p.2)) p.1 :=
  if_pos h

theorem spread_of_lt (h : bottom < p.2) : spread bottom p = [] :=
  if_neg (Nat.not_le.2 h)

/-- One step down a tree does not change what its leaves fill. -/
theorem flatMap_spread_branches (c : Condition) (h : level < bottom) :
    (c.leafLevels level).flatMap (spread bottom) =
      (c.branches.1.leafLevels (level + 1)).flatMap (spread bottom) ++
        (c.branches.2.leafLevels (level + 1)).flatMap (spread bottom) := by
  cases c with
  | leaf l =>
      -- The leaf stands for both of its own sides, and fills half of its room on each.
      have hlevel : bottom - level = bottom - (level + 1) + 1 := by omega
      have hdouble : 2 ^ (bottom - level) =
          2 ^ (bottom - (level + 1)) + 2 ^ (bottom - (level + 1)) := by
        rw [hlevel, Nat.pow_succ, Nat.mul_two]
      simp only [branches, leafLevels, List.flatMap_singleton]
      rw [spread_of_le (Nat.le_of_lt h), spread_of_le h, hdouble, List.replicate_append_replicate]
  | op mode first second =>
      rw [leafLevels, List.flatMap_append]
      rfl

/-- The positions `height` levels below a position hold what the leaves of its node fill there. -/
theorem filterMap_leaf?_nodeAt (tree : Condition) {height i : Nat} (h : level + height = bottom) :
    ((positionsBelow height i).map tree.nodeAt).filterMap leaf? =
      ((tree.nodeAt i).leafLevels level).flatMap (spread bottom) := by
  induction height generalizing i level with
  | zero =>
      subst h
      rw [positionsBelow, List.map_singleton]
      cases tree.nodeAt i with
      | leaf l =>
          simp [leafLevels, leaf?, spread]
      | op mode first second =>
          -- The leaves of this operator are too deep.
          have hnone : ∀ p ∈ (op mode first second).leafLevels level, spread level p = [] := by
            intro p hp
            rw [leafLevels, List.mem_append] at hp
            rcases hp with hfirst | hsecond
            · exact spread_of_lt (level_le_of_mem_leafLevels hfirst)
            · exact spread_of_lt (level_le_of_mem_leafLevels hsecond)
          rw [Nat.add_zero, List.flatMap_eq_nil_iff.2 hnone]
          rfl
  | succ height ih =>
      have hnext : level + 1 + height = bottom := by omega
      rw [positionsBelow, List.map_append, List.filterMap_append, ih hnext, ih hnext, nodeAt_left,
        nodeAt_right, ← flatMap_spread_branches _ (by omega)]

end Condition

namespace Flat

/-! ## Leaf slots -/

/-- The node at a leaf slot. -/
def bottomNode (tree : Condition) (j : Fin 8) : Condition :=
  (slots tree).get (j.natAdd 7)

/-- The leaf slots whose node is a leaf; what stands at the other ones is lost. -/
def keptSlots (tree : Condition) : List (Fin 8) :=
  (List.finRange 8).filter fun j => (bottomNode tree j).leaf?.isSome

variable (tree : Condition)

theorem bottomNode_eq (j : Fin 8) : bottomNode tree j = tree.nodeAt (7 + j) := by
  rw [bottomNode, get_slots, Fin.val_natAdd]

theorem map_bottomNode :
    (List.finRange 8).map (bottomNode tree) = (Condition.positionsBelow 3 0).map tree.nodeAt := by
  rw [funext (bottomNode_eq tree)]
  rfl

theorem get_leaves_ofTree (j : Fin 8) :
    (ofTree tree).leaves.get j = (bottomNode tree j).leaf?.getD Leaf.never := by
  rw [get_eq_getElem, getElem_leaves_ofTree tree j.isLt, bottomNode_eq, Nat.add_comm]

theorem length_keptSlots : (keptSlots tree).length + (ofTree tree).truncated = 8 := by
  have hlost : (ofTree tree).truncated =
      (List.finRange 8).countP fun j => (bottomNode tree j).leaf?.isNone := by
    have hcount := tree.operatorsAt_nodeAt 3 0
    rw [Condition.nodeAt_zero, ← map_bottomNode, List.countP_map, Function.comp_def] at hcount
    rw [truncated_ofTree, hcount]
  have hslots : (List.finRange 8).length = _ :=
    List.length_eq_countP_add_countP fun j => (bottomNode tree j).leaf?.isSome
  simp only [Bool.not_eq_true, Option.isSome_eq_false_iff, Bool.decide_eq_true,
    List.length_finRange] at hslots
  rw [keptSlots, ← List.countP_eq_length_filter, hlost]
  exact hslots.symm

theorem map_get_filter (slots : List (Fin 8)) :
    (slots.filter fun j => (bottomNode tree j).leaf?.isSome).map (ofTree tree).leaves.get =
      slots.filterMap fun j => (bottomNode tree j).leaf? := by
  induction slots with
  | nil =>
      rfl
  | cons j slots ih =>
      have hleaf := get_leaves_ofTree tree j
      cases hnode : (bottomNode tree j).leaf? with
      | none =>
          simp [hnode, ih]
      | some l =>
          rw [hnode, Option.getD_some] at hleaf
          simp [hnode, hleaf, ih]

theorem map_get_keptSlots :
    (keptSlots tree).map (ofTree tree).leaves.get =
      (tree.leafLevels 0).flatMap (Condition.spread 3) := by
  have hnodes := tree.filterMap_leaf?_nodeAt (i := 0) (Nat.zero_add 3)
  rw [Condition.nodeAt_zero, ← map_bottomNode, List.filterMap_map] at hnodes
  rw [keptSlots, map_get_filter, ← hnodes]
  rfl

variable {tree}

theorem keptSlots_eq_finRange (h : (ofTree tree).truncated = 0) :
    keptSlots tree = List.finRange 8 := by
  have hkept := length_keptSlots tree
  have hlength : (keptSlots tree).length = (List.finRange 8).length := by
    rw [List.length_finRange]
    omega
  exact List.filter_eq_self.2 (List.length_filter_eq_length_iff.1 hlength)

/-- The leaf slots of a tree that loses nothing hold its leaves, and nothing else. -/
theorem toList_leaves_ofTree (h : (ofTree tree).truncated = 0) :
    (ofTree tree).leaves.toList = (tree.leafLevels 0).flatMap (Condition.spread 3) := by
  have hget : (ofTree tree).leaves.toList = (List.finRange 8).map (ofTree tree).leaves.get := by
    apply List.ext_getElem
    · simp
    · intro i hi hi'
      simp [get_eq_getElem]
  rw [hget, ← keptSlots_eq_finRange h, map_get_keptSlots]

end Flat
end TileRules
