import TileRules.Proofs.Additions
import TileRules.Proofs.Authoring
import TileRules.Proofs.Bisection
import TileRules.Proofs.Export
import TileRules.Proofs.Lookalike
import TileRules.RuleSet

/-!
# World — the rules of the world compile

The conditions of the world are no deeper than a row has levels, no reaction has more of them than a
block has rows, and no tile type has more reactions than it has slots. So the rules of the world are
compiled under either depth policy, and every one of them is registered.

- `World.DepthWithin` holds of the conditions that can be built and are no deeper than a bound;
- `yields_weighted` authors one reaction, and `makes_worldReactions` all of them;
- `exists_buildRuleSet`: every rule set compiles to the table of a run of authored reactions that
  is `Plain`, so its file never looks like a gzip member, and its slots are counted rightly.
-/

namespace TileRules

open Authoring (Yields)

/-! ## Conditions -/

namespace World

/-- The condition can be built, and is no deeper than this. -/
def DepthWithin (n : Nat) (c : Except RuleError Condition) : Prop :=
  ∃ tree, c = .ok tree ∧ tree.depth ≤ n

theorem DepthWithin.bind {n m : Nat} {c : Except RuleError Condition}
    {next : Condition → Except RuleError Condition} (h : DepthWithin n c)
    (hnext : ∀ tree, tree.depth ≤ n → DepthWithin m (next tree)) : DepthWithin m (c >>= next) := by
  rcases h with ⟨tree, hc, hdepth⟩
  rw [bind_of_ok hc]
  exact hnext tree hdepth

/-- A combination of at most `2 ^ k` conditions is no more than `k` levels deeper. -/
theorem depthWithin_combine (mode : Mode) (n k : Nat) {items : List Condition}
    (hlength : 0 < items.length ∧ items.length ≤ 2 ^ k) (hdepth : ∀ c ∈ items, c.depth ≤ n) :
    DepthWithin (n + k) (Condition.combine mode items) :=
  Condition.exists_combine mode (List.length_pos_iff.1 hlength.1) hlength.2 hdepth

@[simp]
theorem depth_near (tile : Tile) (direction : Direction) (distance : UInt32) :
    (near tile direction distance).depth = 0 :=
  rfl

@[simp]
theorem depth_water (direction : Direction) (distance : UInt32) :
    (water direction distance).depth = 0 :=
  rfl

theorem depthWithin_waterLine (direction : Direction) : DepthWithin 1 (waterLine direction) :=
  depthWithin_combine .or 0 1 (by simp) (by simp)

theorem depthWithin_fairlyCloseToWater : DepthWithin 2 fairlyCloseToWater :=
  depthWithin_combine .or 0 2 (by simp) (by simp)

theorem depthWithin_waterFlow : DepthWithin 3 waterFlow := by
  have hbeside : DepthWithin 1 (Condition.any [water .northWest 1, water .northEast 1]) :=
    depthWithin_combine .or 0 1 (by simp) (by simp)
  refine hbeside.bind fun beside hbeside => ?_
  -- Only a bare leaf would grow under negation.
  have hnegated : beside.negate.depth ≤ 1 := by
    rw [Condition.depth_negate]
    omega
  exact depthWithin_combine .and 1 2 (by simp) (by simpa using hnegated)

theorem depthWithin_waterPool : DepthWithin 3 waterPool := by
  refine (depthWithin_waterLine .north).bind fun north hnorth => ?_
  refine (depthWithin_waterLine .east).bind fun east heast => ?_
  refine (depthWithin_waterLine .south).bind fun south hsouth => ?_
  exact depthWithin_combine .and 1 2 (by simp) (by simp [*])

theorem depthWithin_surroundedByWater : DepthWithin 3 surroundedByWater := by
  have hstraight : ∀ north south : Condition, north.depth ≤ 1 → south.depth ≤ 1 →
      DepthWithin 2 (Condition.all [north, south]) := by
    intro north south hnorth hsouth
    exact depthWithin_combine .and 1 1 (by simp) (by simp [*])
  have hdiagonal : DepthWithin 1 (Condition.all [water .northEast 1, water .southWest 1]) :=
    depthWithin_combine .and 0 1 (by simp) (by simp)
  refine (depthWithin_waterLine .north).bind fun north hnorth => ?_
  refine (depthWithin_waterLine .south).bind fun south hsouth => ?_
  refine (hstraight north south hnorth hsouth).bind fun straight hstraight => ?_
  refine hdiagonal.bind fun diagonal hdiagonal => ?_
  have hlow : diagonal.depth ≤ 2 := by omega
  exact depthWithin_combine .or 2 1 (by simp) (by simp [*])

theorem depthWithin_enoughWater : DepthWithin 3 enoughWater := by
  have hcorner : DepthWithin 1 (Condition.any [water .northWest 1, water .southEast 1]) :=
    depthWithin_combine .or 0 1 (by simp) (by simp)
  refine hcorner.bind fun corner hcorner => ?_
  exact depthWithin_combine .and 1 2 (by simp) (by simp [*])

theorem depthWithin_lotsOfGrass : DepthWithin 1 lotsOfGrass :=
  depthWithin_combine .and 0 1 (by simp) (by simp)

theorem depthWithin_lavaRow : DepthWithin 2 lavaRow := by
  have hcorners : DepthWithin 1
      (Condition.all [near .lava .northWest 1, near .lava .northEast 1]) :=
    depthWithin_combine .and 0 1 (by simp) (by simp)
  refine hcorners.bind fun corners hcorners => ?_
  exact depthWithin_combine .and 1 1 (by simp) (by simp [*])

/-- The tile type of each reaction with its bias, in order of registration. -/
def outline : List (Tile × Int) :=
  [(.grass, -3), (.grass, -1), (.grass, -3), (.mud, -6), (.mud, 2), (.water, -1), (.water, 0),
    (.sand, -1), (.sand, -2)]

end World

/-! ## Reactions -/

/-- A reaction of weighted conditions, all offered under one policy. -/
def Draft.weighted (result : Tile) (bias : Int) (conditions : List (Condition × Int))
    (policy : DepthPolicy) : Draft :=
  { resultTile := result.id
    bias
    additions := conditions.map fun (tree, value) => ⟨tree, value, policy⟩ }

/-- A reaction gets all of its conditions if it has room for them and none is too deep. -/
theorem yields_weighted (result : Tile) (bias : Int) {conditions : List (Condition × Int)}
    (policy : DepthPolicy) (hroom : conditions.length ≤ 16)
    (hshallow : ∀ c ∈ conditions, c.1.depth ≤ 3) :
    Yields (weighted result bias conditions policy)
      (Draft.weighted result bias conditions policy).reaction := by
  have htaken : accepted Reaction.offer (Draft.weighted result bias conditions policy).start
      (Draft.weighted result bias conditions policy).additions =
        (Draft.weighted result bias conditions policy).additions := by
    refine (Reaction.carries_new result.id bias).accepted_eq_self ?_ ?_
    · simpa [Draft.weighted] using hroom
    · intro a ha hdeep
      obtain ⟨c, hc, rfl⟩ := List.mem_map.1 ha
      exact absurd hdeep.2 (Nat.not_lt.2 (hshallow c hc))
  -- Each condition is an offer under the same policy.
  have hrun := Yields.foldlM
    (fun r (a : Addition) _ (hstep : r.offer a = _) => Authoring.yields_addCondition hstep) htaken
  rw [Draft.weighted, List.foldlM_map] at hrun
  exact hrun

/-- A condition that is low enough has a place in a row. -/
theorem makes_condition {n : Nat} {c : Except RuleError Condition} (h : World.DepthWithin n c)
    (hlow : n ≤ 3) : Authoring.Makes (Authoring.ofExcept c) (fun tree => tree.depth ≤ 3) := by
  rcases h with ⟨tree, hc, hdepth⟩
  exact ⟨tree, Yields.ofExcept hc, Nat.le_trans hdepth hlow⟩

theorem makes_weighted (result : Tile) (bias : Int) {conditions : List (Condition × Int)}
    (policy : DepthPolicy) (hroom : conditions.length ≤ 16)
    (hshallow : ∀ c ∈ conditions, c.1.depth ≤ 3) :
    Authoring.Makes (weighted result bias conditions policy)
      (fun r => ∃ d : Draft, r = d.reaction ∧ d.bias = bias) :=
  ⟨_, yields_weighted result bias policy hroom hshallow, _, rfl, rfl⟩

theorem makes_worldReactions (policy : DepthPolicy) :
    Authoring.Makes (worldReactions policy) fun reactions =>
      ∃ drafts : List (Tile × Draft),
        reactions = drafts.map (fun entry => (entry.1, entry.2.reaction)) ∧
        drafts.map (fun entry => (entry.1, entry.2.bias)) = World.outline := by
  have hwater : World.closeToWater.depth ≤ 3 := Nat.zero_le 3
  have hmud : World.closeToMud.depth ≤ 3 := Nat.zero_le 3
  have hsand : World.closeToSand.depth ≤ 3 := Nat.zero_le 3
  -- First the conditions, then a draft for each reaction; all lists are short and all trees low.
  refine (makes_condition World.depthWithin_fairlyCloseToWater (by decide)).bind
    fun fairly hfairly => ?_
  refine (makes_condition World.depthWithin_waterFlow (by decide)).bind fun flow hflow => ?_
  refine (makes_condition World.depthWithin_waterPool (by decide)).bind fun pool hpool => ?_
  refine (makes_condition World.depthWithin_surroundedByWater (by decide)).bind
    fun surrounded hsurrounded => ?_
  refine (makes_condition World.depthWithin_enoughWater (by decide)).bind fun enough henough => ?_
  refine (makes_condition World.depthWithin_lotsOfGrass (by decide)).bind fun grass hgrass => ?_
  refine (makes_condition World.depthWithin_lavaRow (by decide)).bind fun lava hlava => ?_
  refine (makes_weighted .mud (-3) policy (by simp) (by simp [*])).bind ?_
  rintro _ ⟨grassToMud, rfl, hgrassToMud⟩
  refine (makes_weighted .lava (-1) policy (by simp) (by simp [*])).bind ?_
  rintro _ ⟨grassToLava, rfl, hgrassToLava⟩
  refine (makes_weighted .sand (-3) policy (by simp) (by simp)).bind ?_
  rintro _ ⟨grassToSand, rfl, hgrassToSand⟩
  refine (makes_weighted .water (-6) policy (by simp) (by simp [*])).bind ?_
  rintro _ ⟨mudToWater, rfl, hmudToWater⟩
  refine (makes_weighted .grass 2 policy (by simp) (by simp [*])).bind ?_
  rintro _ ⟨mudToGrass, rfl, hmudToGrass⟩
  refine (makes_weighted .sand (-1) policy (by simp) (by simp [*])).bind ?_
  rintro _ ⟨waterToSand, rfl, hwaterToSand⟩
  refine (makes_weighted .mud 0 policy (by simp) (by simp [*])).bind ?_
  rintro _ ⟨waterToMud, rfl, hwaterToMud⟩
  refine (makes_weighted .water (-1) policy (by simp) (by simp [*])).bind ?_
  rintro _ ⟨sandToWater, rfl, hsandToWater⟩
  refine (makes_weighted .grass (-2) policy (by simp) (by simp [*])).bind ?_
  rintro _ ⟨sandToGrass, rfl, hsandToGrass⟩
  refine ⟨_, Yields.pure _, [(.grass, grassToMud), (.grass, grassToLava), (.grass, grassToSand),
    (.mud, mudToWater), (.mud, mudToGrass), (.water, waterToSand), (.water, waterToMud),
    (.sand, sandToWater), (.sand, sandToGrass)], rfl, ?_⟩
  simp [World.outline, *]

/-! ## Plain runs -/

/-- Nothing is registered for tile type 0, and no bias is stored as zero. -/
def Plain (calls : List (UInt32 × Draft)) : Prop :=
  ∀ call ∈ calls, call.1 ≠ 0 ∧ call.2.bias % 32 ≠ 16

namespace Plain

variable {calls : List (UInt32 × Draft)}

theorem firstFor_zero (h : Plain calls) : firstFor 0 calls = none := by
  rw [firstFor, Option.map_eq_none_iff, List.find?_eq_none]
  intro call hcall hzero
  exact (h call hcall).1 (beq_iff_eq.1 hzero)

/-- The first block is that of an unused slot, and no member opens like that. -/
theorem decompress_fileBytes [Gzip.Packer] [Gzip.LawfulPacker] (h : Plain calls)
    (compress : Bool) :
    decompress (fileBytes (authoredTable calls).toBytes compress) =
      .ok (authoredTable calls).toBytes := by
  refine (decompress_fileBytes_iff _ compress).2 (.inr (.inl ?_))
  rw [isMember_authored, h.firstFor_zero]
  rintro ⟨d, hd, _⟩
  cases hd

/-- No reaction can be taken for an unused slot. -/
theorem fromWords_eq (h : Plain calls) :
    RuleTable.fromWords (authoredTable calls).words.toArray = .ok (authoredTable calls) := by
  refine RuleTable.fromWords_eq_ok_iff.2 ⟨rfl, fun tile => ?_⟩
  have hid := RuleTable.toNat_ofNat_tile tile
  have hrun : (authoredTable calls).Represents (registered (authoredRun calls)) :=
    RuleTable.represents_ofRun (authoredRun calls)
  refine (hrun.usedSlots_eq_iff hid).2 fun r hlast hblock => ?_
  rcases exists_call_of_registered (List.mem_of_getLast? hlast) with ⟨d, hd, rfl⟩
  have hlook := (d.carries.block_eq_noopBlock_iff (by omega)).1 hblock
  have hzero := hlook.2.2
  rw [d.carries.bias_eq] at hzero
  exact (h _ hd).2 hzero

end Plain

/-! ## Rule sets -/

/-- Drafts that are registered for tiles with a name. -/
def namedCalls (drafts : List (Tile × Draft)) : List (UInt32 × Draft) :=
  drafts.map fun entry => (entry.1.id, entry.2)

/-- No tile type has more reactions than it has slots, so none of them is refused. -/
theorem accepted_of_outline {drafts : List (Tile × Draft)}
    (h : drafts.map (fun entry => (entry.1, entry.2.bias)) = World.outline) :
    accepted RuleTable.register RuleTable.empty (authoredRun (namedCalls drafts)) =
      authoredRun (namedCalls drafts) := by
  have hids : (authoredRun (namedCalls drafts)).map Prod.fst = World.outline.map (·.1.id) := by
    rw [← h]
    simp [authoredRun, namedCalls]
  have hroom : (World.outline.map (·.1.id)).all
      (fun id => id.toNat < 32 ∧ (World.outline.map (·.1.id)).count id ≤ 8) = true := by
    decide
  refine RuleTable.represents_empty.accepted_eq_self fun id hid => ?_
  rw [List.length_nil, Nat.zero_add, length_reactionsFor, hids]
  rw [hids] at hid
  exact of_decide_eq_true (List.all_eq_true.1 hroom id hid)

theorem exists_worldRules (policy : DepthPolicy) :
    ∃ calls, Yields (worldRules policy) (authoredTable calls) ∧ Plain calls := by
  rcases makes_worldReactions policy with ⟨_, hreactions, drafts, rfl, houtline⟩
  have htable := Yields.foldlM
    (fun t (call : UInt32 × Reaction) _ (hstep : RuleTable.register t call = _) =>
      Authoring.yields_addReaction hstep) (accepted_of_outline houtline)
  refine ⟨namedCalls drafts, ?_, ?_⟩
  · refine hreactions.bind (Yields.bind ?_ ((Yields.report _).bind (Yields.pure _)))
    -- The fold over named tiles makes the same calls as the run of registrations.
    rw [authoredRun, namedCalls, List.foldlM_map, List.foldlM_map] at htable
    rw [List.foldlM_map]
    exact htable
  · intro call hcall
    rcases List.mem_map.1 hcall with ⟨entry, hentry, rfl⟩
    have hplain : ∀ entry ∈ World.outline, entry.1.id ≠ 0 ∧ entry.2 % 32 ≠ 16 := by
      decide
    refine hplain (entry.1, entry.2.bias) ?_
    rw [← houtline]
    exact List.mem_map_of_mem hentry

/-- Every rule set compiles, under either depth policy. -/
theorem exists_buildRuleSet (set : RuleSet) (strict : Bool) :
    ∃ calls, Yields (buildRuleSet set strict) (authoredTable calls) ∧ Plain calls := by
  cases set with
  | world =>
      exact exists_worldRules _
  | empty =>
      exact ⟨[], Yields.pure _, fun _ hcall => absurd hcall List.not_mem_nil⟩

end TileRules
