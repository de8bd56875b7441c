import TileRules.Proofs.Region
import TileRules.Proofs.Table

/-!
# Registration — the table is a map from tile types to lists of reactions

A table is built by registering reactions one after another, and registrations for different tile
types may come in any order. Behind any such run the table holds, for every tile type, the list of
the reactions that were registered for it, and the no-op block in every slot behind them.

- `RuleTable.Represents` is the invariant, and `RuleTable.Represents.unique` says that it leaves no
  freedom to the table;
- `Represents.addReaction_eq` says when a registration is refused, and `Represents.addReaction` that
  any other one appends to one list;
- `RuleTable.registerInPlace` writes over one table, and `RuleTable.registerInPlace_does` says that
  it does the same;
- `registered_eq_take`: the list of a tile type holds its first eight registrations;
- `table_refines_registrations` puts a whole run together.
-/

namespace TileRules

open Layout

/-! ## Runs of registrations -/

/-- The reactions for one tile id in a run of registrations, in order. -/
def reactionsFor (id : UInt32) (run : List (UInt32 × Reaction)) : List Reaction :=
  run.filterMap fun call => if call.1 = id then some call.2 else none

theorem reactionsFor_cons (id : UInt32) (call : UInt32 × Reaction)
    (run : List (UInt32 × Reaction)) :
    reactionsFor id (call :: run) =
      if call.1 = id then call.2 :: reactionsFor id run else reactionsFor id run := by
  by_cases h : call.1 = id
  · simp [reactionsFor, h]
  · simp [reactionsFor, h]

theorem reactionsFor_append (id : UInt32) (run more : List (UInt32 × Reaction)) :
    reactionsFor id (run ++ more) = reactionsFor id run ++ reactionsFor id more :=
  List.filterMap_append

theorem length_reactionsFor (id : UInt32) (run : List (UInt32 × Reaction)) :
    (reactionsFor id run).length = (run.map (·.1)).count id := by
  induction run with
  | nil =>
      rfl
  | cons call run ih =>
      rw [reactionsFor_cons, List.map_cons, List.count_cons, ← ih]
      by_cases h : call.1 = id <;> simp [h]

namespace RuleTable

def register (t : RuleTable) (call : UInt32 × Reaction) : Except RuleError RuleTable :=
  t.addReaction call.1 call.2

/-- The table behind a run of registrations. -/
def ofRun (run : List (UInt32 × Reaction)) : RuleTable :=
  attempts register empty run

end RuleTable

/-- The reactions that a run registers for a tile id, without the refused ones. -/
def registered (run : List (UInt32 × Reaction)) (id : UInt32) : List Reaction :=
  reactionsFor id (accepted RuleTable.register RuleTable.empty run)

namespace RuleTable

/-! ## In place -/

/-- Registers a reaction in place: its block goes over the table first, and then it is counted. -/
def registerInPlace (call : UInt32 × Reaction) : InPlace RuleTable Unit := do
  let tile ← InPlace.ofExcept (tileIndex call.1)
  let count := (← get).count tile
  if free : count < 8 then
    InPlace.within words (fun t words => { t with words }) (copyInPlace tableWidth tableHeight
      call.2.data.toArray (column tile) (topRow ⟨count, free⟩) rowWords)
    modify fun t => { t with counts := t.counts.setIfInBounds tile.val (t.count tile + 1) }
  else
    throw (.refused (.capacityExceeded (.reactions call.1)))

theorem run_copyInPlace_block (words : Vector UInt32 16384) (tile : Fin 32) (slot : Fin 8)
    (b : Block) :
    (copyInPlace tableWidth tableHeight b.words.toArray (column tile) (topRow slot) rowWords).run
      words = .ok () (placeBlock words tile slot b) :=
  (copyInPlace_does tableWidth tableHeight b.words.toArray (column tile) (topRow slot)
    rowWords).run_eq (copyRegion_block words tile slot b)

/-- Nothing is written before the last check, because a block has a place at every slot. -/
theorem registerInPlace_does (call : UInt32 × Reaction) :
    InPlace.Does (registerInPlace call) fun t => register t call := by
  intro t
  dsimp only [register]
  rcases addReaction_cases t call.1 call.2 with
    ⟨hge, hstep⟩ | ⟨tile, hid, hfull, hstep⟩ | ⟨tile, hfree, hid, hstep⟩
  · rw [hstep, registerInPlace, tileIndex_of_ge hge]
    rfl
  · rw [hstep, registerInPlace, tileIndex_of_lt hid, InPlace.ofExcept, pure_bind,
      EStateM.run_bind, EStateM.run_get]
    dsimp only
    rw [dif_neg (Nat.not_lt.2 hfull)]
    rfl
  · rw [hstep, registerInPlace, tileIndex_of_lt hid, InPlace.ofExcept, pure_bind,
      EStateM.run_bind, EStateM.run_get]
    dsimp only
    rw [dif_pos hfree, EStateM.run_bind, Reaction.data,
      InPlace.run_within (run_copyInPlace_block t.words tile ⟨t.count tile, hfree⟩ call.2.block)]
    rfl

/-! ## The invariant -/

/-- The table holds these lists of reactions. -/
structure Represents (t : RuleTable) (lists : UInt32 → List Reaction) : Prop where
  outside : ∀ {id : UInt32}, 32 ≤ id.toNat → lists id = []
  length_le : ∀ id : UInt32, (lists id).length ≤ 8
  counts : ∀ {id : UInt32} {tile : Fin 32}, id.toNat = tile.val →
    t.count tile = (lists id).length
  blocks : ∀ {id : UInt32} {tile : Fin 32} (slot : Fin 8), id.toNat = tile.val →
    blockOf t.words tile slot = inSlot Reaction.block (noopBlock id) (lists id) slot.val

theorem toNat_ofNat_tile (tile : Fin 32) : (UInt32.ofNat tile.val).toNat = tile.val := by
  have h := tile.isLt
  rw [UInt32.toNat_ofNat']
  omega

theorem represents_empty : Represents empty fun _ => [] := by
  constructor
  · intro _ _
    rfl
  · intro _
    exact Nat.zero_le 8
  · intro id tile _
    exact count_empty tile
  · intro id tile slot h
    have hid : UInt32.ofNat tile.val = id := by
      apply UInt32.toNat_inj.1
      rw [toNat_ofNat_tile, h]
    rw [blockOf_empty, hid]
    rfl

namespace Represents

variable {t u : RuleTable} {lists : UInt32 → List Reaction}

/-- Counts and blocks leave no freedom to a table. -/
theorem unique (ht : Represents t lists) (hu : Represents u lists) : t = u := by
  have hcounts : t.counts = u.counts := by
    apply counts_ext
    intro tile
    have hid := toNat_ofNat_tile tile
    exact (ht.counts hid).trans (hu.counts hid).symm
  -- Every cell belongs to a block, so equal blocks are equal words.
  have hwords : t.words = u.words := by
    apply words_ext
    intro tile slot
    have hid := toNat_ofNat_tile tile
    rw [ht.blocks slot hid, hu.blocks slot hid]
  cases t
  cases u
  rw [RuleTable.mk.injEq]
  exact ⟨hwords, hcounts⟩

theorem reactionCount (h : Represents t lists) (id : UInt32) :
    t.reactionCount id = (lists id).length := by
  rcases exists_tile id with hge | ⟨tile, htile⟩
  · have hnone : t.counts[id.toNat]? = none := Vector.getElem?_eq_none hge
    rw [RuleTable.reactionCount, hnone, h.outside hge]
    rfl
  · rw [t.reactionCount_of_lt htile, h.counts htile]

theorem block (h : Represents t lists) {id : UInt32} {tile : Fin 32} (htile : id.toNat = tile.val)
    {slot : Nat} (hslot : slot < 8) :
    t.block id slot = .ok (inSlot Reaction.block (noopBlock id) (lists id) slot) := by
  rw [t.block_of_lt htile hslot, h.blocks ⟨slot, hslot⟩ htile]

/-! ## One registration -/

/-- The list of one tile id grows, and all else stays as it is. -/
theorem place (h : Represents t lists) {id : UInt32} {tile : Fin 32} (hid : id.toNat = tile.val)
    (hfree : t.count tile < 8) (r : Reaction) :
    Represents (t.place tile ⟨t.count tile, hfree⟩ r)
      fun other => if other = id then lists id ++ [r] else lists other := by
  have hcount : t.count tile = (lists id).length := h.counts hid
  have hsame : ∀ {other : UInt32} {tile' : Fin 32}, other.toNat = tile'.val →
      (other = id ↔ tile' = tile) := by
    intro other tile' hother
    rw [← UInt32.toNat_inj, hother, hid]
    exact Fin.ext_iff.symm
  constructor
  · intro other hge
    have hne : other ≠ id := by
      rintro rfl
      omega
    rw [if_neg hne]
    exact h.outside hge
  · intro other
    split
    · rw [List.length_append, List.length_singleton]
      omega
    · exact h.length_le other
  · intro other tile' hother
    rw [count_place]
    by_cases htile : tile' = tile
    · rw [if_pos htile, if_pos ((hsame hother).2 htile), List.length_append, List.length_singleton,
        hcount]
    · rw [if_neg htile, if_neg (mt (hsame hother).1 htile)]
      exact h.counts hother
  · intro other tile' slot hother
    simp only [RuleTable.place]
    rw [blockOf_placeBlock, h.blocks slot hother]
    by_cases htile : tile' = tile
    · -- The next free slot is the one behind the list.
      have hslot : slot = ⟨t.count tile, hfree⟩ ↔ slot.val = (lists id).length := by
        rw [Fin.ext_iff, ← hcount]
      obtain rfl := (hsame hother).2 htile
      rw [if_pos rfl, inSlot_concat]
      simp only [htile, hslot, true_and]
    · rw [if_neg (fun hand => htile hand.1), if_neg (mt (hsame hother).1 htile)]

/-- The two refusals, and when they come. -/
theorem addReaction_eq (h : Represents t lists) (id : UInt32) (r : Reaction) :
    t.addReaction id r =
      if 32 ≤ id.toNat then .error (.rangeViolation (.tileType id))
      else if (lists id).length = 8 then .error (.capacityExceeded (.reactions id))
      else .ok (attempt register t (id, r)) := by
  rcases addReaction_cases t id r with
    ⟨hge, hstep⟩ | ⟨tile, hid, hfull, hstep⟩ | ⟨tile, hfree, hid, hstep⟩
  · rw [hstep, if_pos hge]
  · have hlt : ¬ 32 ≤ id.toNat := by omega
    have hlength : (lists id).length = 8 := by
      have hle := h.length_le id
      have hcount := h.counts hid
      omega
    rw [hstep, if_neg hlt, if_pos hlength]
  · have hlt : ¬ 32 ≤ id.toNat := by omega
    have hlength : ¬ (lists id).length = 8 := by
      have hcount := h.counts hid
      omega
    have htaken : attempt register t (id, r) = t.place tile ⟨t.count tile, hfree⟩ r :=
      attempt_of_ok hstep
    rw [hstep, if_neg hlt, if_neg hlength, htaken]

/-- One registration appends to one list. -/
theorem addReaction (h : Represents t lists) {id : UInt32} {r : Reaction} {next : RuleTable}
    (hstep : t.addReaction id r = .ok next) :
    Represents next fun other => if other = id then lists id ++ [r] else lists other := by
  obtain ⟨tile, hfree, hid, rfl⟩ := exists_place hstep
  exact h.place hid hfree r

/-! ## Runs -/

/-- The lists grow up to eight reactions and no further, whatever stands between the registrations
of one tile id. -/
theorem reactionsFor_accepted (h : Represents t lists) (run : List (UInt32 × Reaction))
    {id : UInt32} (hid : id.toNat < 32) :
    reactionsFor id (accepted register t run) =
      (reactionsFor id run).take (8 - (lists id).length) := by
  induction run generalizing t lists with
  | nil =>
      exact List.take_nil.symm
  | cons call run ih =>
      obtain ⟨other, r⟩ := call
      have hout := h.addReaction_eq other r
      rw [reactionsFor_cons]
      cases hcall : t.addReaction other r with
      | ok next =>
          have hnext := h.addReaction hcall
          have hroom : (lists other).length < 8 := by
            have hle := h.length_le other
            rw [hcall] at hout
            grind
          have htaken : register t (other, r) = .ok next := hcall
          rw [accepted_cons_of_ok htaken, reactionsFor_cons, ih hnext]
          -- If it was for `id`, one registration less has room behind it.
          by_cases heq : other = id
          · subst heq
            have hless : 8 - (lists other).length = 8 - ((lists other).length + 1) + 1 := by omega
            simp only [if_true, List.length_append, List.length_singleton]
            rw [hless, List.take_succ_cons]
          · rw [if_neg heq, if_neg heq, if_neg (Ne.symm heq)]
      | error e =>
          have hrefused : register t (other, r) = .error e := hcall
          rw [accepted_cons_of_error hrefused, ih h]
          -- If it was for `id`, the list is full and nothing has room any more.
          by_cases heq : other = id
          · subst heq
            have hfull : 8 - (lists other).length = 0 := by
              rw [hcall] at hout
              grind
            rw [hfull, List.take_zero, List.take_zero]
          · rw [if_neg heq]

/-- Nothing is refused while every tile type of the run exists and has room for its reactions. -/
theorem accepted_eq_self (h : Represents t lists) {run : List (UInt32 × Reaction)}
    (hroom : ∀ id ∈ run.map (·.1),
      id.toNat < 32 ∧ (lists id).length + (reactionsFor id run).length ≤ 8) :
    accepted register t run = run := by
  induction run generalizing t lists with
  | nil =>
      rfl
  | cons call run ih =>
      obtain ⟨id, r⟩ := call
      obtain ⟨⟨hid, hlength⟩, hrest⟩ := List.forall_mem_cons.1 hroom
      dsimp only at hid hlength
      rw [reactionsFor_cons, if_pos rfl, List.length_cons] at hlength
      have hstep := h.addReaction_eq id r
      rw [if_neg (Nat.not_le.2 hid), if_neg (by omega)] at hstep
      have htaken : register t (id, r) = .ok (attempt register t (id, r)) := hstep
      rw [accepted_cons_of_ok htaken, ih (h.addReaction hstep)]
      -- What the list of the tile type has gained, the rest of the run has lost.
      intro other hother
      obtain ⟨hlt, hle⟩ := hrest other hother
      refine ⟨hlt, ?_⟩
      rw [reactionsFor_cons] at hle
      by_cases heq : other = id
      · subst heq
        rw [if_pos rfl, List.length_cons] at hle
        rw [if_pos rfl, List.length_append, List.length_singleton]
        omega
      · rw [if_neg (Ne.symm heq)] at hle
        rw [if_neg heq]
        exact hle

end Represents

/-- No later registration touches a slot that is in use. -/
theorem attempts_keeps {t : RuleTable} {tile : Fin 32} {slot : Fin 8}
    (hused : slot.val < t.count tile) (further : List (UInt32 × Reaction)) :
    blockOf (attempts register t further).words tile slot = blockOf t.words tile slot := by
  have hkeep : ∀ (u : RuleTable) (call : UInt32 × Reaction) (next : RuleTable),
      slot.val < u.count tile ∧ blockOf u.words tile slot = blockOf t.words tile slot →
      register u call = .ok next →
      slot.val < next.count tile ∧ blockOf next.words tile slot = blockOf t.words tile slot := by
    intro u call next h hstep
    have hnext := addReaction_keeps hstep h.1
    exact ⟨hnext.1, hnext.2.trans h.2⟩
  exact (attempts_invariant ⟨hused, rfl⟩ hkeep further).2

/-- A run leaves a table that holds what the run registered. -/
theorem represents_ofRun (run : List (UInt32 × Reaction)) :
    Represents (ofRun run) (registered run) := by
  refine attempts_induction (P := fun done t => Represents t fun id => reactionsFor id done)
    represents_empty ?_ run
  intro done t call next h hstep
  have hnext := h.addReaction hstep
  have hlists : (fun id => reactionsFor id (done ++ [call])) =
      fun id =>
        if id = call.1 then reactionsFor call.1 done ++ [call.2] else reactionsFor id done := by
    funext id
    rw [reactionsFor_append, reactionsFor_cons]
    by_cases heq : id = call.1
    · subst heq
      simp [reactionsFor]
    · rw [if_neg (Ne.symm heq), if_neg heq]
      exact List.append_nil _
  rw [hlists]
  exact hnext

end RuleTable

theorem registered_of_ge (run : List (UInt32 × Reaction)) {id : UInt32} (h : 32 ≤ id.toNat) :
    registered run id = [] :=
  (RuleTable.represents_ofRun run).outside h

/-- A tile type keeps the first eight reactions that are offered to it. -/
theorem registered_eq_take (run : List (UInt32 × Reaction)) {id : UInt32} (h : id.toNat < 32) :
    registered run id = (reactionsFor id run).take 8 :=
  RuleTable.represents_empty.reactionsFor_accepted run h

/-- Registering reactions in an empty table refines appending to one list for each tile type.

The first part is about the next call behind any run: made in place, it leaves the table as it was
if it is refused. The second part says that a run in place leaves the table of the run. The middle
parts are about this table, and the last part says that only the order within one tile type
counts. -/
theorem table_refines_registrations (run : List (UInt32 × Reaction)) :
    (∀ id r,
      (RuleTable.ofRun run).addReaction id r =
          (if 32 ≤ id.toNat then .error (.rangeViolation (.tileType id))
          else if (registered run id).length = 8 then .error (.capacityExceeded (.reactions id))
          else .ok (RuleTable.ofRun (run ++ [(id, r)]))) ∧
        (RuleTable.registerInPlace (id, r)).run (RuleTable.ofRun run) =
          (if 32 ≤ id.toNat then
            .error (.refused (.rangeViolation (.tileType id))) (RuleTable.ofRun run)
          else if (registered run id).length = 8 then
            .error (.refused (.capacityExceeded (.reactions id))) (RuleTable.ofRun run)
          else .ok () (RuleTable.ofRun (run ++ [(id, r)]))) ∧
        ((32 ≤ id.toNat ∨ (registered run id).length = 8) →
          RuleTable.ofRun (run ++ [(id, r)]) = RuleTable.ofRun run)) ∧
      (InPlace.inTurn RuleTable.registerInPlace run).run RuleTable.empty =
        .ok () (RuleTable.ofRun run) ∧
      (RuleTable.ofRun run).words.toList.length = 16384 ∧
      (∀ id, (RuleTable.ofRun run).reactionCount id = (registered run id).length ∧
        (registered run id).length ≤ 8) ∧
      (∀ id slot (h : slot < (registered run id).length),
        ((RuleTable.ofRun run).block id slot).map Block.words =
          .ok ((registered run id)[slot]).data) ∧
      (∀ id slot, id.toNat < 32 → (registered run id).length ≤ slot → slot < 8 →
        (RuleTable.ofRun run).block id slot = .ok (noopBlock id)) ∧
      ∀ other, (∀ id, id.toNat < 32 → reactionsFor id run = reactionsFor id other) →
        RuleTable.ofRun run = RuleTable.ofRun other := by
  have hrun := RuleTable.represents_ofRun run
  refine ⟨?_, InPlace.run_inTurn RuleTable.registerInPlace_does RuleTable.empty run,
    Vector.length_toList, ?_, ?_, ?_, ?_⟩
  · intro id r
    have hnext : RuleTable.ofRun (run ++ [(id, r)]) =
        attempt RuleTable.register (RuleTable.ofRun run) (id, r) :=
      attempts_concat run (id, r)
    have hstep := hrun.addReaction_eq id r
    have hplace := (RuleTable.registerInPlace_does (id, r)).run_eq hstep
    rw [hnext]
    refine ⟨hstep, hplace.trans ?_, ?_⟩
    · split
      · rfl
      · split <;> rfl
    rintro (hge | hfull)
    · rw [if_pos hge] at hstep
      exact attempt_of_error hstep
    · by_cases hge : 32 ≤ id.toNat
      · rw [if_pos hge] at hstep
        exact attempt_of_error hstep
      · rw [if_neg hge, if_pos hfull] at hstep
        exact attempt_of_error hstep
  · intro id
    exact ⟨hrun.reactionCount id, hrun.length_le id⟩
  · intro id slot h
    rcases RuleTable.exists_tile id with hge | ⟨tile, htile⟩
    · rw [registered_of_ge run hge] at h
      exact absurd h (Nat.not_lt_zero slot)
    · have hslot : slot < 8 := Nat.lt_of_lt_of_le h (hrun.length_le id)
      rw [hrun.block htile hslot, inSlot_of_lt _ _ h]
      rfl
  · intro id slot hid hbehind hslot
    obtain ⟨tile, htile⟩ : ∃ tile : Fin 32, id.toNat = tile.val := ⟨⟨id.toNat, hid⟩, rfl⟩
    rw [hrun.block htile hslot, inSlot_of_ge _ _ hbehind]
  · intro other hsame
    have hother := RuleTable.represents_ofRun other
    have hlists : registered run = registered other := by
      funext id
      rcases RuleTable.exists_tile id with hge | ⟨tile, htile⟩
      · rw [registered_of_ge run hge, registered_of_ge other hge]
      · have hid : id.toNat < 32 := by omega
        rw [registered_eq_take run hid, registered_eq_take other hid, hsame id hid]
    rw [hlists] at hrun
    exact hrun.unique hother

end TileRules
