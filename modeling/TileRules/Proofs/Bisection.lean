import Mathlib.Algebra.Group.Nat.Defs
import Mathlib.Data.Nat.Log
import TileRules.Condition.Bisection

/-!
# Bisection — a combination is as low as its items allow

A list is halved until single items are left. Every cut is made in the middle, so the number of cuts
above an item is the binary logarithm of the length of the list, rounded down or up. A combination
has one operator for every cut, and every item brings its own depth below the cuts above it.

- `Bisection.exists_ofList?`: every list that is not empty is cut into its own items, always in the
  middle;
- `Bisection.Halving.level_eq`: how many cuts stand above an item;
- `Condition.exists_combine_cuts` and `Condition.depth_join_le_iff` carry this over to combined
  conditions, and `Condition.exists_combine` bounds their depth.
-/

namespace TileRules

namespace Bisection

variable {α β γ : Type}

/-! ## Cuts in the middle -/

/-- Every cut is made in the middle: the first half has as many items as the second one, or one item
less. -/
def Halving : Bisection α → Prop
  | .item _ => True
  | .cut left right =>
      left.toList.length ≤ right.toList.length ∧ right.toList.length ≤ left.toList.length + 1 ∧
        left.Halving ∧ right.Halving

theorem length_take_half (items : List α) :
    (items.take (items.length / 2)).length = items.length / 2 := by
  rw [List.length_take]
  omega

/-- What holds of single items, and of a list whenever it holds of its halves, holds of every list
that is not empty. -/
@[elab_as_elim]
theorem halves_induction {P : List α → Prop} (single : ∀ a, P [a])
    (halves : ∀ items : List α, items.take (items.length / 2) ≠ [] →
      items.drop (items.length / 2) ≠ [] → P (items.take (items.length / 2)) →
        P (items.drop (items.length / 2)) → P items)
    (items : List α) (hne : items ≠ []) : P items := by
  induction hlength : items.length using Nat.strongRecOn generalizing items with
  | _ n ih =>
      have hpos := List.length_pos_iff.2 hne
      by_cases hone : items.length = 1
      · rcases List.length_eq_one_iff.1 hone with ⟨a, rfl⟩
        exact single a
      · -- Neither half is empty, and both are shorter than the list.
        have hleft := length_take_half items
        have hright : (items.drop (items.length / 2)).length = items.length - items.length / 2 :=
          List.length_drop
        have hneLeft : items.take (items.length / 2) ≠ [] := List.length_pos_iff.1 (by omega)
        have hneRight : items.drop (items.length / 2) ≠ [] := List.length_pos_iff.1 (by omega)
        exact halves items hneLeft hneRight (ih _ (by omega) _ hneLeft hleft)
          (ih _ (by omega) _ hneRight hright)

theorem ofList?_nil : ofList? ([] : List α) = none := by
  rw [ofList?]

theorem ofList?_singleton (a : α) : ofList? [a] = some (.item a) := by
  rw [ofList?]

/-- A list with a first half that is not empty is cut in the middle. -/
theorem ofList?_of_halves {items : List α} {left right : Bisection α}
    (hne : items.take (items.length / 2) ≠ [])
    (hleft : ofList? (items.take (items.length / 2)) = some left)
    (hright : ofList? (items.drop (items.length / 2)) = some right) :
    ofList? items = some (.cut left right) := by
  match items with
  | [] | [_] =>
      simp at hne
  | a :: b :: rest =>
      rw [List.length_cons, List.length_cons] at hleft hright
      rw [ofList?, hleft, hright]

/-- Every list that is not empty is cut into its own items, always in the middle. -/
theorem exists_ofList? (items : List α) (hne : items ≠ []) :
    ∃ cuts, ofList? items = some cuts ∧ cuts.toList = items ∧ cuts.Halving := by
  refine halves_induction ?_ ?_ items hne
  · intro a
    exact ⟨.item a, ofList?_singleton a, rfl, trivial⟩
  · intro items hneLeft hneRight ihLeft ihRight
    rcases ihLeft with ⟨left, hcutLeft, hitemsLeft, hhalvesLeft⟩
    rcases ihRight with ⟨right, hcutRight, hitemsRight, hhalvesRight⟩
    refine ⟨.cut left right, ofList?_of_halves hneLeft hcutLeft hcutRight, ?_, ?_⟩
    · rw [toList, hitemsLeft, hitemsRight, List.take_append_drop]
    · rw [Halving, hitemsLeft, hitemsRight, length_take_half, List.length_drop]
      exact ⟨by omega, by omega, hhalvesLeft, hhalvesRight⟩

/-! ## Other items at the same places -/

/-- Puts another item in the place of each. -/
def map (f : α → β) : Bisection α → Bisection β :=
  join (fun a => .item (f a)) .cut

theorem join_map (f : α → β) (onItem : β → γ) (onCut : γ → γ → γ) (cuts : Bisection α) :
    (cuts.map f).join onItem onCut = cuts.join (fun a => onItem (f a)) onCut := by
  induction cuts with
  | item a =>
      rfl
  | cut left right ihLeft ihRight =>
      rw [join, ← ihLeft, ← ihRight]
      rfl

/-- The places of the cuts depend on the length of the list alone. -/
theorem ofList?_map (f : α → β) (items : List α) :
    ofList? (items.map f) = (ofList? items).map (map f) := by
  by_cases hne : items = []
  · rw [hne, List.map_nil, ofList?_nil, ofList?_nil, Option.map_none]
  · refine halves_induction ?_ ?_ items hne
    · intro a
      rw [List.map_singleton, ofList?_singleton, ofList?_singleton]
      rfl
    · intro items hneLeft hneRight ihLeft ihRight
      rcases exists_ofList? _ hneLeft with ⟨left, hleft, -, -⟩
      rcases exists_ofList? _ hneRight with ⟨right, hright, -, -⟩
      rw [hleft, List.map_take] at ihLeft
      rw [hright, List.map_drop] at ihRight
      rw [ofList?_of_halves hneLeft hleft hright]
      refine ofList?_of_halves ?_ ?_ ?_
      · rwa [List.length_map, ← List.map_take, ne_eq, List.map_eq_nil_iff]
      · rw [List.length_map, ihLeft]
        rfl
      · rw [List.length_map, ihRight]
        rfl

/-! ## Counting cuts -/

/-- The number of cuts. -/
def cutCount : Bisection α → Nat
  | .item _ => 0
  | .cut left right => left.cutCount + right.cutCount + 1

/-- The items from left to right, each with the number of cuts above it; the counting starts at
`level`. -/
def levels : (level : Nat) → Bisection α → List (α × Nat)
  | level, .item a => [(a, level)]
  | level, .cut left right => left.levels (level + 1) ++ right.levels (level + 1)

theorem length_toList (cuts : Bisection α) : cuts.toList.length = cuts.cutCount + 1 := by
  induction cuts with
  | item a =>
      rfl
  | cut left right ihLeft ihRight =>
      rw [toList, List.length_append, cutCount]
      omega

theorem map_fst_levels (level : Nat) (cuts : Bisection α) :
    (cuts.levels level).map Prod.fst = cuts.toList := by
  induction cuts generalizing level with
  | item a =>
      rfl
  | cut left right ihLeft ihRight =>
      rw [levels, List.map_append, ihLeft, ihRight, toList]

theorem fst_mem_toList {level : Nat} {cuts : Bisection α} {p : α × Nat}
    (h : p ∈ cuts.levels level) : p.1 ∈ cuts.toList := by
  rw [← map_fst_levels level cuts]
  exact List.mem_map_of_mem h

namespace Halving

variable {cuts : Bisection α} {k level : Nat} {p : α × Nat}

/-- At least `k` cuts stand above every one of `2 ^ k` items. -/
theorem add_le_level (h : cuts.Halving) (hlength : 2 ^ k ≤ cuts.toList.length)
    (hp : p ∈ cuts.levels level) : level + k ≤ p.2 := by
  induction cuts generalizing k level with
  | item a =>
      have hk : k = 0 := by
        by_contra hk
        exact Nat.not_le.2 (Nat.one_lt_two_pow hk) hlength
      rw [levels, List.mem_singleton] at hp
      rw [hp, hk, Nat.add_zero]
  | cut left right ihLeft ihRight =>
      rcases h with ⟨hle, hge, hleft, hright⟩
      rw [toList, List.length_append] at hlength
      rw [levels, List.mem_append] at hp
      -- This cut stands above both halves, and the shorter one has room for the others.
      have hhalf : 2 ^ (k - 1) ≤ left.toList.length := by
        cases k with
        | zero =>
            rw [length_toList]
            exact Nat.succ_pos _
        | succ k =>
            rw [Nat.pow_succ] at hlength
            rw [Nat.add_sub_cancel]
            omega
      rcases hp with hp | hp
      · have hbelow := ihLeft hleft hhalf hp
        omega
      · have hbelow := ihRight hright (Nat.le_trans hhalf hle) hp
        omega

/-- At most `k` cuts stand above any one of `2 ^ k` items. -/
theorem level_le_add (h : cuts.Halving) (hlength : cuts.toList.length ≤ 2 ^ k)
    (hp : p ∈ cuts.levels level) : p.2 ≤ level + k := by
  induction cuts generalizing k level with
  | item a =>
      rw [levels, List.mem_singleton] at hp
      rw [hp]
      exact Nat.le_add_right level k
  | cut left right ihLeft ihRight =>
      rcases h with ⟨hle, hge, hleft, hright⟩
      rw [toList, List.length_append] at hlength
      rw [levels, List.mem_append] at hp
      cases k with
      | zero =>
          -- There is no cut without an item on both sides.
          have hitem := left.length_toList
          have hitem' := right.length_toList
          omega
      | succ k =>
          rw [Nat.pow_succ] at hlength
          have hhalf : right.toList.length ≤ 2 ^ k := by omega
          rcases hp with hp | hp
          · have hbelow := ihLeft hleft (Nat.le_trans hle hhalf) hp
            omega
          · have hbelow := ihRight hright hhalf hp
            omega

/-- The number of cuts above an item is the logarithm of the number of items, rounded down or up. -/
theorem level_eq (h : cuts.Halving) (hp : p ∈ cuts.levels 0) :
    p.2 = Nat.log 2 cuts.toList.length ∨ p.2 = Nat.clog 2 cuts.toList.length := by
  have hpos : cuts.toList.length ≠ 0 := by
    rw [length_toList]
    exact Nat.succ_ne_zero _
  have hlow := h.add_le_level (Nat.pow_log_le_self 2 hpos) hp
  have hhigh := h.level_le_add (Nat.le_pow_clog (by decide) _) hp
  have hnear : Nat.clog 2 cuts.toList.length ≤ Nat.log 2 cuts.toList.length + 1 :=
    Nat.clog_le_of_le_pow (Nat.le_of_lt (Nat.lt_pow_succ_log_self (by decide) _))
  omega

end Halving
end Bisection

namespace Condition

variable {α : Type} {n : Nat}

theorem combine_map (mode : Mode) (f : α → Condition) {items : List α} {cuts : Bisection α}
    (h : Bisection.ofList? items = some cuts) :
    combine mode (items.map f) = .ok (cuts.join f (.op mode)) := by
  rw [combine, Bisection.ofList?_map, h, Option.map_some]
  simp only [Bisection.join_map, id]

/-- Anything but an empty list can be combined, with cuts in the middle. -/
theorem exists_combine_map (mode : Mode) (f : α → Condition) {items : List α} (hne : items ≠ []) :
    ∃ cuts : Bisection α, cuts.toList = items ∧ cuts.Halving ∧
      combine mode (items.map f) = .ok (cuts.join f (.op mode)) := by
  rcases Bisection.exists_ofList? items hne with ⟨cuts, hcuts, hitems, hhalves⟩
  exact ⟨cuts, hitems, hhalves, combine_map mode f hcuts⟩

theorem exists_combine_cuts (mode : Mode) {items : List Condition} (hne : items ≠ []) :
    ∃ cuts : Bisection Condition, cuts.toList = items ∧ cuts.Halving ∧
      combine mode items = .ok (cuts.join id (.op mode)) := by
  simpa using exists_combine_map mode id hne

/-! ## Depth -/

/-- Every item brings its own depth below the cuts above it. -/
theorem depth_join_le_iff (mode : Mode) (f : α → Condition) (cuts : Bisection α) (level : Nat) :
    level + (cuts.join f (.op mode)).depth ≤ n ↔
      ∀ p ∈ cuts.levels level, p.2 + (f p.1).depth ≤ n := by
  induction cuts generalizing level with
  | item a =>
      rw [Bisection.levels, List.forall_mem_singleton, Bisection.join]
  | cut left right ihLeft ihRight =>
      have hmax : level + (Bisection.join f (.op mode) (.cut left right)).depth ≤ n ↔
          level + 1 + (left.join f (.op mode)).depth ≤ n ∧
            level + 1 + (right.join f (.op mode)).depth ≤ n := by
        rw [Bisection.join, depth]
        omega
      rw [hmax, ihLeft, ihRight, Bisection.levels, List.forall_mem_append]

theorem depth_join_le (mode : Mode) (f : α → Condition) {cuts : Bisection α} {k : Nat}
    (h : cuts.Halving) (hlength : cuts.toList.length ≤ 2 ^ k)
    (hdepth : ∀ a ∈ cuts.toList, (f a).depth ≤ n) :
    (cuts.join f (.op mode)).depth ≤ k + n := by
  rw [← Nat.zero_add (depth _), depth_join_le_iff]
  intro p hp
  have hlevel : p.2 ≤ 0 + k := h.level_le_add hlength hp
  rw [Nat.zero_add] at hlevel
  exact Nat.add_le_add hlevel (hdepth p.1 (Bisection.fst_mem_toList hp))

/-- A tree of operators has room for `2 ^ n` items at depth `n`, and for no more. -/
theorem length_toList_le (mode : Mode) (f : α → Condition) (cuts : Bisection α) :
    cuts.toList.length ≤ 2 ^ (cuts.join f (.op mode)).depth := by
  induction cuts with
  | item a =>
      exact Nat.two_pow_pos _
  | cut left right ihLeft ihRight =>
      rw [Bisection.toList, List.length_append, Bisection.join, depth]
      generalize (left.join f (.op mode)).depth = m at *
      generalize (right.join f (.op mode)).depth = n at *
      have hleft : 2 ^ m ≤ 2 ^ max m n := Nat.pow_le_pow_right (by decide) (Nat.le_max_left m n)
      have hright : 2 ^ n ≤ 2 ^ max m n := Nat.pow_le_pow_right (by decide) (Nat.le_max_right m n)
      calc left.toList.length + right.toList.length
          ≤ 2 ^ max m n + 2 ^ max m n :=
            Nat.add_le_add (Nat.le_trans ihLeft hleft) (Nat.le_trans ihRight hright)
        _ = 2 ^ (1 + max m n) := by
            rw [Nat.add_comm 1, Nat.pow_succ, Nat.mul_two]

/-- Conditions can be combined, and the result is no more than `k` levels deeper. -/
theorem exists_combine (mode : Mode) {items : List Condition} {k : Nat} (hne : items ≠ [])
    (hlength : items.length ≤ 2 ^ k) (hdepth : ∀ c ∈ items, c.depth ≤ n) :
    ∃ tree, combine mode items = .ok tree ∧ tree.depth ≤ n + k := by
  rcases exists_combine_cuts mode hne with ⟨cuts, rfl, hhalves, hcombine⟩
  refine ⟨_, hcombine, ?_⟩
  rw [Nat.add_comm]
  exact depth_join_le mode id hhalves hlength hdepth

end Condition
end TileRules
