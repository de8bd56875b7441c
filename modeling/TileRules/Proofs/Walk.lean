import Mathlib.Data.Nat.Size
import TileRules.Proofs.DepthPolicy
import TileRules.Proofs.Flattening
import TileRules.Proofs.Leaves

/-!
# Walk — the walk over the positions follows the paths from the root

Every position of a complete tree has a path: the binary digits of its number plus one, without the
leading one, say on which side to go down. A flat condition holds at each position what stands at
the end of this path, and the walk that fills the positions never reads one that it has not filled.

- `Path.ofPosition` is the path of a position and `Condition.descend` the node at the end of a path;
  `Condition.nodeAt_eq_descend` says that the numbering of children leads to the same node;
- `Flat.ofTreeInPlace` walks over positions of which only the root is filled, and has no result if
  it reads an empty one; `Flat.ofTreeInPlace_eq` says what it finds;
- `Flat.Walking.AgreesWith.step`: a step in place is a step of the walk, seen on the filled positions;
- `Condition.nodeAt_congr`: a node decides on nothing but the positions below its own;
- `walk_follows_binary_paths` puts them together.
-/

namespace TileRules

/-! ## Paths -/

/-- The operand that a binary digit stands for. -/
def Side.ofDigit : Bool → Side
  | false => .first
  | true => .second

namespace Path

/-- The path of a position: the binary digits of its number plus one, from the highest one down and
without the leading one. -/
def ofPosition (i : Nat) : Path :=
  (i + 1).bits.reverse.tail.map Side.ofDigit

theorem ofPosition_zero : ofPosition 0 = [] :=
  rfl

theorem bits_succ_ne_nil (i : Nat) : (i + 1).bits ≠ [] := by
  intro hnil
  have hsize : (i + 1).size = 0 := by
    rw [← Nat.size_eq_bits_len, hnil, List.length_nil]
  exact Nat.succ_ne_zero i (Nat.size_eq_zero.1 hsize)

/-- One more digit below the others is one more step down. -/
theorem ofPosition_of_bits {i child : Nat} {digit : Bool}
    (h : (child + 1).bits = digit :: (i + 1).bits) :
    ofPosition child = ofPosition i ++ [.ofDigit digit] := by
  -- The leading digit is that of the parent, so the new one is not dropped with it.
  have hne : (i + 1).bits.reverse ≠ [] := fun hnil =>
    bits_succ_ne_nil i (List.reverse_eq_nil_iff.1 hnil)
  rw [ofPosition, h, List.reverse_cons, List.tail_append_of_ne_nil hne, List.map_append]
  rfl

theorem ofPosition_left (i : Nat) : ofPosition (2 * i + 1) = ofPosition i ++ [.first] :=
  ofPosition_of_bits (Nat.bit0_bits (i + 1) (Nat.succ_ne_zero i))

theorem ofPosition_right (i : Nat) : ofPosition (2 * i + 2) = ofPosition i ++ [.second] :=
  ofPosition_of_bits (Nat.bit1_bits (i + 1))

end Path

namespace Condition

/-- The node at the end of a path. A path that goes on behind a leaf stays at the leaf. -/
def descend : Path → Condition → Condition
  | [], c => c
  | _ :: _, .leaf l => .leaf l
  | .first :: path, .op _ first _ => first.descend path
  | .second :: path, .op _ _ second => second.descend path

@[simp]
theorem descend_leaf (path : Path) (l : Leaf) : (leaf l).descend path = leaf l := by
  cases path <;> rfl

theorem descend_append (c : Condition) (path more : Path) :
    c.descend (path ++ more) = (c.descend path).descend more := by
  induction path generalizing c with
  | nil =>
      rfl
  | cons side path ih =>
      cases c with
      | leaf l =>
          simp only [descend_leaf]
      | op mode first second =>
          cases side with
          | first =>
              exact ih first
          | second =>
              exact ih second

theorem descend_concat_first (c : Condition) (path : Path) :
    c.descend (path ++ [.first]) = (c.descend path).branches.1 := by
  rw [descend_append]
  cases c.descend path <;> rfl

theorem descend_concat_second (c : Condition) (path : Path) :
    c.descend (path ++ [.second]) = (c.descend path).branches.2 := by
  rw [descend_append]
  cases c.descend path <;> rfl

/-- The node at a position is the one at the end of its path. -/
theorem nodeAt_eq_descend (tree : Condition) (i : Nat) :
    tree.nodeAt i = tree.descend (.ofPosition i) := by
  -- A position is reached from its parent, so each case takes off the last step of the path, while
  -- `descend` takes off the first.
  induction i using Condition.nodeAt.induct with
  | case1 =>
      rw [nodeAt_zero, Path.ofPosition_zero, descend]
  | case2 i heven ih =>
      have hchild : i.succ = 2 * (i / 2) + 1 := by omega
      rw [hchild, nodeAt_left, ih, Path.ofPosition_left, descend_concat_first]
  | case3 i hodd ih =>
      have hchild : i.succ = 2 * (i / 2) + 2 := by omega
      rw [hchild, nodeAt_right, ih, Path.ofPosition_right, descend_concat_second]

/-! ## Subtrees -/

theorem nodeAt_one (tree : Condition) : tree.nodeAt 1 = tree.branches.1 := by
  have hleft := nodeAt_left tree 0
  rwa [nodeAt_zero] at hleft

theorem nodeAt_two (tree : Condition) : tree.nodeAt 2 = tree.branches.2 := by
  have hright := nodeAt_right tree 0
  rwa [nodeAt_zero] at hright

/-- Trees with the same node at one position have the same nodes at all positions below it. -/
theorem nodeAt_congr {tree tree' : Condition} {height i j : Nat}
    (h : tree.nodeAt i = tree'.nodeAt i) (hj : j ∈ positionsBelow height i) :
    tree.nodeAt j = tree'.nodeAt j := by
  induction height generalizing i with
  | zero =>
      rw [positionsBelow, List.mem_singleton] at hj
      rw [hj]
      exact h
  | succ height ih =>
      rw [positionsBelow, List.mem_append] at hj
      rcases hj with hleft | hright
      · refine ih ?_ hleft
        rw [nodeAt_left, nodeAt_left, h]
      · refine ih ?_ hright
        rw [nodeAt_right, nodeAt_right, h]

end Condition

/-! ## The walk in place -/

/-- A loop over all indices is known as soon as the states between its steps are. -/
theorem foldlM_finRange {σ : Type} {n : Nat} {step : σ → Fin n → Option σ} (state : Nat → σ)
    (h : ∀ k : Fin n, step (state k.val) k = some (state (k.val + 1))) :
    (List.finRange n).foldlM step (state 0) = some (state n) := by
  induction n with
  | zero =>
      rfl
  | succ n ih =>
      -- The last index is split off: the states before it are those of the shorter loop.
      have hlast := h (Fin.last n)
      rw [Fin.val_last] at hlast
      rw [List.finRange_succ_last, List.foldlM_append, List.foldlM_map, ih fun k => h k.castSucc,
        Option.bind_eq_bind, Option.bind_some, List.foldlM_cons, hlast]
      rfl

namespace Flat

/-- How far a walk has come: the modes that it has found, and the positions that it has filled. -/
@[ext]
structure Walking where
  modes : Vector Mode 7
  nodes : Vector (Option Condition) 15

theorem left_lt (i : Fin 7) : 2 * i.val + 1 < 15 := by
  omega

theorem right_lt (i : Fin 7) : 2 * i.val + 2 < 15 := by
  omega

namespace Walking

/-- Nothing but the root is filled. -/
def start (tree : Condition) : Walking :=
  { modes := Vector.replicate 7 .and
    nodes := (Vector.replicate 15 none).set 0 (some tree) }

/-- Reads an operator position, keeps its mode and fills its children. An empty position gives no
result. -/
def step (w : Walking) (i : Fin 7) : Option Walking := do
  let node ← w.nodes.get (i.castAdd 8)
  return {
    modes :=
      match node with
      | .leaf _ => w.modes
      | .op mode _ _ => w.modes.set i.val mode i.isLt
    nodes :=
      (w.nodes.set (2 * i.val + 1) (some node.branches.1) (left_lt i)).set (2 * i.val + 2)
        (some node.branches.2) (right_lt i) }

/-- What `steps` steps have found and filled. -/
def reached (tree : Condition) (steps : Nat) : Walking :=
  { modes := Vector.ofFn fun i : Fin 7 =>
      if i.val < steps then (tree.nodeAt i).mode?.getD .and else .and
    nodes := Vector.ofFn fun j : Fin 15 =>
      if j.val ≤ 2 * steps then some (tree.nodeAt j) else none }

theorem get_nodes_reached (tree : Condition) {steps : Nat} {j : Fin 15}
    (h : j.val ≤ 2 * steps) : (reached tree steps).nodes.get j = some (tree.nodeAt j) := by
  simp only [reached, get_eq_getElem, Vector.getElem_ofFn]
  exact if_pos h

theorem start_eq_reached (tree : Condition) : start tree = reached tree 0 := by
  apply Walking.ext
  · apply Vector.ext
    intro i hi
    simp [start, reached]
  · apply Vector.ext
    intro j hj
    simp only [start, reached, Vector.getElem_set, Vector.getElem_replicate, Vector.getElem_ofFn]
    rcases Nat.eq_zero_or_pos j with rfl | hpos
    · rw [if_pos rfl, if_pos (Nat.zero_le _), Condition.nodeAt_zero]
    · rw [if_neg (by omega), if_neg (by omega)]

/-- A step reads a position that is filled, and fills the next two. -/
theorem step_reached (tree : Condition) (i : Fin 7) :
    (reached tree i.val).step i = some (reached tree (i.val + 1)) := by
  have hread : (reached tree i.val).nodes.get (i.castAdd 8) = some (tree.nodeAt i) :=
    get_nodes_reached tree (by simp only [Fin.val_castAdd]; omega)
  rw [step, hread]
  refine congrArg some (Walking.ext ?_ ?_)
  · apply Vector.ext
    intro k hk
    by_cases hself : k = i.val
    · -- The mode is kept now. A leaf has none, and leaves the AND that stands there.
      subst hself
      cases hnode : tree.nodeAt i.val with
      | leaf l =>
          simp [reached, hnode, Condition.mode?]
      | op mode first second =>
          simp [reached, hnode, Condition.mode?]
    · have hfound : k < i.val ↔ k < i.val + 1 := by omega
      have hsame : (reached tree i.val).modes[k] = (reached tree (i.val + 1)).modes[k] := by
        simp only [reached, Vector.getElem_ofFn, hfound]
      rw [← hsame]
      cases tree.nodeAt i.val with
      | leaf l =>
          rfl
      | op mode first second =>
          exact Vector.getElem_set_ne i.isLt hk (Ne.symm hself)
  · apply Vector.ext
    intro j hj
    simp only [reached, Vector.getElem_set, Vector.getElem_ofFn]
    split
    · rename_i hright
      rw [← hright, if_pos (by omega), Condition.nodeAt_right]
    · split
      · rename_i hleft
        rw [← hleft, if_pos (by omega), Condition.nodeAt_left]
      · rename_i hright hleft
        have hfilled : j ≤ 2 * i.val ↔ j ≤ 2 * (i.val + 1) := by omega
        simp only [hfilled]

theorem foldlM_step (tree : Condition) :
    (List.finRange 7).foldlM step (start tree) = some (reached tree 7) := by
  rw [start_eq_reached]
  exact foldlM_finRange (reached tree) (step_reached tree)

/-! ## Both walks -/

/-- Every position that is filled holds what the array holds there. -/
def AgreesWith (w : Walking) (slots : Vector Condition 15) : Prop :=
  ∀ (j : Fin 15) (node : Condition), w.nodes.get j = some node → slots.get j = node

/-- A step in place does to the filled positions what a step of the walk does to the array. -/
theorem AgreesWith.step {w next : Walking} {slots : Vector Condition 15} {i : Fin 7}
    (h : w.AgreesWith slots) (hstep : w.step i = some next) : next.AgreesWith (expand slots i) := by
  rw [Walking.step, Option.bind_eq_bind, Option.bind_eq_some_iff] at hstep
  rcases hstep with ⟨node, hread, hnext⟩
  cases hnext
  intro j found hfound
  -- Both steps read the same node, so they write the same two children.
  have hslot : slots.get (i.castLE (by decide)) = node := h _ node hread
  rw [get_expand, hslot]
  simp only [get_eq_getElem, Vector.getElem_set] at hfound
  split
  · rename_i hright
    rw [if_pos hright.symm] at hfound
    exact Option.some.inj hfound
  · rename_i hright
    rw [if_neg (Ne.symm hright)] at hfound
    split
    · rename_i hleft
      rw [if_pos hleft.symm] at hfound
      exact Option.some.inj hfound
    · rename_i hleft
      rw [if_neg (Ne.symm hleft)] at hfound
      exact h j found hfound

theorem AgreesWith.foldlM {w last : Walking} {slots : Vector Condition 15} {is : List (Fin 7)}
    (h : w.AgreesWith slots) (hrun : is.foldlM Walking.step w = some last) :
    last.AgreesWith (is.foldl expand slots) := by
  induction is generalizing w slots with
  | nil =>
      cases hrun
      exact h
  | cons i is ih =>
      rw [List.foldlM_cons, Option.bind_eq_bind, Option.bind_eq_some_iff] at hrun
      rcases hrun with ⟨next, hstep, hrest⟩
      exact ih (h.step hstep) hrest

theorem start_agreesWith (tree : Condition) (before : Vector Condition 15) :
    (start tree).AgreesWith (before.set 0 tree) := by
  intro j node hread
  simp only [start, get_eq_getElem, Vector.getElem_set, Vector.getElem_replicate] at hread ⊢
  split at hread
  · rename_i hroot
    rw [if_pos hroot]
    exact Option.some.inj hread
  · cases hread

end Walking

/-- What stood at the other positions before the walk does not matter. -/
theorem foldl_expand_eq_slots (tree : Condition) (before : Vector Condition 15) :
    (List.finRange 7).foldl expand (before.set 0 tree) = slots tree := by
  have hagrees := (Walking.start_agreesWith tree before).foldlM (Walking.foldlM_step tree)
  apply Vector.ext
  intro j hj
  have hfilled : (Walking.reached tree 7).nodes.get ⟨j, hj⟩ = some (tree.nodeAt j) :=
    Walking.get_nodes_reached tree (by simp only; omega)
  exact (hagrees ⟨j, hj⟩ _ hfilled).trans (get_slots tree ⟨j, hj⟩).symm

/-- The flat condition of a tree, found by a walk in place. There is no result if a position is read
that the walk has not filled. -/
def ofTreeInPlace (tree : Condition) : Option Flat := do
  let w ← (List.finRange 7).foldlM Walking.step (.start tree)
  let bottom ← Vector.ofFnM fun j : Fin 8 => w.nodes.get (j.natAdd 7)
  return {
    modes := w.modes
    leaves := bottom.map fun node => node.leaf?.getD Leaf.never
    truncated := bottom.toList.countP fun node => node.leaf?.isNone }

theorem ofTreeInPlace_eq (tree : Condition) : ofTreeInPlace tree = some (ofTree tree) := by
  have hread : ∀ j : Fin 8,
      (Walking.reached tree 7).nodes.get (j.natAdd 7) = some (bottomNode tree j) := by
    intro j
    rw [bottomNode_eq]
    exact Walking.get_nodes_reached tree (by simp only [Fin.val_natAdd]; omega)
  have hbottom : (Vector.ofFnM fun j : Fin 8 => (Walking.reached tree 7).nodes.get (j.natAdd 7)) =
      some (Vector.ofFn (bottomNode tree)) := by
    simp only [hread]
    exact Vector.ofFnM_pure
  have hmodes : (Walking.reached tree 7).modes = (ofTree tree).modes := by
    apply Vector.ext
    intro i hi
    rw [getElem_modes_ofTree tree hi]
    simp only [Walking.reached, Vector.getElem_ofFn]
    exact if_pos hi
  rw [ofTreeInPlace, Walking.foldlM_step, Option.bind_eq_bind, Option.bind_some, hbottom,
    Option.bind_eq_bind, Option.bind_some, hmodes]
  rfl

/-! ## Children of the root -/

section Children

variable {tree tree' : Condition} {p : Nat}

/-- A node decides on the modes at its own position and at those of its children, and nothing but
the mode of the root decides on the first one. -/
theorem get_modes_congr (h : tree.nodeAt p = tree'.nodeAt p) (hroot : tree.mode? = tree'.mode?)
    {i : Fin 7}
    (hi : i.val = 0 ∨ i.val ∈ Condition.positionsBelow 0 p ∨ i.val ∈ Condition.positionsBelow 1 p) :
    (ofTree tree).modes.get i = (ofTree tree').modes.get i := by
  rw [get_eq_getElem, get_eq_getElem, getElem_modes_ofTree tree i.isLt,
    getElem_modes_ofTree tree' i.isLt]
  rcases hi with hzero | hself | hchild
  · rw [hzero, Condition.nodeAt_zero, Condition.nodeAt_zero, hroot]
  · rw [Condition.nodeAt_congr h hself]
  · rw [Condition.nodeAt_congr h hchild]

theorem get_leaves_congr (h : tree.nodeAt p = tree'.nodeAt p) {j : Fin 8}
    (hj : 7 + j.val ∈ Condition.positionsBelow 2 p) :
    (ofTree tree).leaves.get j = (ofTree tree').leaves.get j := by
  rw [get_leaves_ofTree, get_leaves_ofTree, bottomNode_eq, bottomNode_eq,
    Condition.nodeAt_congr h hj]

end Children

end Flat

/-- The walk puts at every position the node at the end of its path, and a flat condition is read
off these nodes.

The middle parts are about the walk itself: no position but the root is read before it is filled, so
it does not matter what stood there before. The last part is about a root with two children, each of
which decides on no other positions than those on its own side. -/
theorem walk_follows_binary_paths (tree : Condition) :
    (∀ j : Fin 15, (Flat.slots tree).get j = tree.descend (.ofPosition j)) ∧
      (∀ i : Fin 7, (Flat.ofTree tree).modes.get i =
        (tree.descend (.ofPosition i)).mode?.getD .and) ∧
      (∀ j : Fin 8, (Flat.ofTree tree).leaves.get j =
        (tree.descend (.ofPosition (7 + j))).leaf?.getD Leaf.never) ∧
      Flat.ofTreeInPlace tree = some (Flat.ofTree tree) ∧
      (∀ before : Vector Condition 15,
        (List.finRange 7).foldl Flat.expand (before.set 0 tree) = Flat.slots tree) ∧
      ∀ mode first second, tree = .op mode first second → ∀ other,
        (∀ i : Fin 7, i ∉ [1, 3, 4] → (Flat.ofTree (.op mode other second)).modes.get i =
            (Flat.ofTree tree).modes.get i) ∧
          (∀ j : Fin 8, j ∉ [0, 1, 2, 3] → (Flat.ofTree (.op mode other second)).leaves.get j =
            (Flat.ofTree tree).leaves.get j) ∧
          (∀ i : Fin 7, i ∉ [2, 5, 6] → (Flat.ofTree (.op mode first other)).modes.get i =
            (Flat.ofTree tree).modes.get i) ∧
          ∀ j : Fin 8, j ∉ [4, 5, 6, 7] → (Flat.ofTree (.op mode first other)).leaves.get j =
            (Flat.ofTree tree).leaves.get j := by
  refine ⟨?_, ?_, ?_, Flat.ofTreeInPlace_eq tree, Flat.foldl_expand_eq_slots tree, ?_⟩
  · intro j
    rw [Flat.get_slots, Condition.nodeAt_eq_descend]
  · intro i
    rw [Flat.get_eq_getElem, Flat.getElem_modes_ofTree tree i.isLt, Condition.nodeAt_eq_descend]
  · intro j
    rw [Flat.get_leaves_ofTree, Flat.bottomNode_eq, Condition.nodeAt_eq_descend]
  · rintro mode first second rfl other
    -- The child that is not exchanged stands where it stood.
    have hsecond : (Condition.op mode other second).nodeAt 2 =
        (Condition.op mode first second).nodeAt 2 := by
      rw [Condition.nodeAt_two, Condition.nodeAt_two]
      rfl
    have hfirst : (Condition.op mode first other).nodeAt 1 =
        (Condition.op mode first second).nodeAt 1 := by
      rw [Condition.nodeAt_one, Condition.nodeAt_one]
      rfl
    -- All other slots are those of the root and of its own side.
    have hmodesSecond : ∀ i : Fin 7, i ∉ [1, 3, 4] → i.val = 0 ∨
        i.val ∈ Condition.positionsBelow 0 2 ∨ i.val ∈ Condition.positionsBelow 1 2 := by
      decide
    have hleavesSecond : ∀ j : Fin 8, j ∉ [0, 1, 2, 3] →
        7 + j.val ∈ Condition.positionsBelow 2 2 := by
      decide
    have hmodesFirst : ∀ i : Fin 7, i ∉ [2, 5, 6] → i.val = 0 ∨
        i.val ∈ Condition.positionsBelow 0 1 ∨ i.val ∈ Condition.positionsBelow 1 1 := by
      decide
    have hleavesFirst : ∀ j : Fin 8, j ∉ [4, 5, 6, 7] →
        7 + j.val ∈ Condition.positionsBelow 2 1 := by
      decide
    exact ⟨fun i hi => Flat.get_modes_congr hsecond rfl (hmodesSecond i hi),
      fun j hj => Flat.get_leaves_congr hsecond (hleavesSecond j hj),
      fun i hi => Flat.get_modes_congr hfirst rfl (hmodesFirst i hi),
      fun j hj => Flat.get_leaves_congr hfirst (hleavesFirst j hj)⟩

/-- A leaf beside an operator. -/
def leafBesideOr : Condition :=
  .op .and (.tileAt 20 0 1) (.op .or (.tileAt 5 4 1) (.tileAt 3 6 2))

/-- The first leaf of the operator takes two slots, and keeps them beside a deeper tree. -/
theorem leafBesideOr_follows_its_paths :
    Path.ofPosition 11 = [.second, .first, .first] ∧
      (Flat.ofTree leafBesideOr).leaves.get 4 = Leaf.ofParts 5 4 1 ∧
        Flat.ofTreeInPlace leafBesideOr = some (Flat.ofTree leafBesideOr) ∧
          (Flat.ofTree (.op .and lopsided (.op .or (.tileAt 5 4 1) (.tileAt 3 6 2)))).leaves.get 4 =
            Leaf.ofParts 5 4 1 := by
  have hpath : Path.ofPosition 11 = [.second, .first, .first] := by decide
  rcases walk_follows_binary_paths leafBesideOr with ⟨-, -, hleaves, hplace, -, hchildren⟩
  have hleaf : (Flat.ofTree leafBesideOr).leaves.get 4 = Leaf.ofParts 5 4 1 := by
    rw [hleaves 4]
    decide
  have hother := (hchildren _ _ _ rfl lopsided).2.1 4 (by decide)
  exact ⟨hpath, hleaf, hplace, hother.trans hleaf⟩

end TileRules
