import TileRules.Summary
import TileRules.Proofs.Authored
import TileRules.Proofs.Flat
import TileRules.Proofs.Registration
import TileRules.Proofs.Row

/-!
# Decoding — a summary says what was authored

Decoding a slot of the table gives back the conditions of the reaction that was registered there,
with their flat modes and leaves, whatever is registered later. Values, biases and result tiles come
back as their five bits.

- `ConditionSummary.ofRow_raised`: the fields of a row of a block are the fields of the row that was
  raised into it;
- `Draft.ofBlock_reaction`: the block of a reaction decodes to what was authored;
- `RuleTable.blockOf_attempts`: later registrations leave a used slot alone;
- `decoding_inverts_authoring` puts them together, and decodes the slots that are still free.
-/

namespace TileRules

open Layout

/-! ## What a summary should say -/

/-- The flat condition with the modes and leaves of a decoded row. -/
def ConditionSummary.flat (c : ConditionSummary) : Flat :=
  { modes := c.modes, leaves := c.leaves, truncated := 0 }

/-- A condition as its decoded row should show it. -/
def Addition.summary (index : Nat) (a : Addition) : ConditionSummary :=
  { row := index
    value := wrapValue a.value
    modes := (Flat.ofTree a.tree).modes
    leaves := (Flat.ofTree a.tree).leaves }

/-- A condition that was never set. -/
def ConditionSummary.unset (index : Nat) : ConditionSummary :=
  { row := index
    value := 0
    modes := Vector.replicate 7 .and
    leaves := Vector.replicate 8 Leaf.never }

/-- The summary of a reaction with these conditions, in order. -/
def ReactionSummary.ofConditions (tile : UInt32) (slot : Nat) (resultTile : UInt32) (bias : Int)
    (list : List Addition) : ReactionSummary :=
  { tile
    slot
    resultTile := resultTile % 32
    bias := wrapValue bias
    conditions := List.ofFn fun i : Fin 16 =>
      inSlot (Addition.summary i.val) (ConditionSummary.unset i.val) list i.val }

/-! ## Raised headers -/

namespace Reaction

theorem toNat_reactionBits (resultTile : UInt32) (bias : Int) :
    (reactionBits resultTile bias).toNat =
      (storeValue bias).toNat * 32 + resultTile.toNat % 32 := by
  have hstored := storeValue_lt bias
  have htile : (resultTile &&& tileMask).toNat = resultTile.toNat % 32 := toNat_and_mask 5 rfl
  have hlow : (resultTile &&& tileMask).toNat < 2 ^ (5 : UInt32).toNat := by
    rw [htile]
    exact Nat.mod_lt _ (by decide)
  have hroom : (storeValue bias).toNat * 2 ^ (5 : UInt32).toNat < 2 ^ 32 := by
    rw [show (5 : UInt32).toNat = 5 from rfl]
    omega
  rw [reactionBits, toNat_shiftLeft_or (by decide) hlow hroom, htile]
  rfl

theorem reactionBits_lt (resultTile : UInt32) (bias : Int) :
    (reactionBits resultTile bias).toNat < 2 ^ 10 := by
  have hstored := storeValue_lt bias
  rw [toNat_reactionBits]
  omega

end Reaction

section Raised

variable {header bits : UInt32}

theorem raised_shiftRight (hheader : header.toNat < 2 ^ 19) (hbits : bits.toNat < 2 ^ 10) :
    ((header <<< headerShift) ||| bits) >>> headerShift = header := by
  apply shiftLeft_or_shiftRight (by decide) hbits
  rw [show headerShift.toNat = 10 from rfl]
  omega

theorem toNat_raised (hheader : header.toNat < 2 ^ 19) (hbits : bits.toNat < 2 ^ 10) :
    ((header <<< headerShift) ||| bits).toNat = header.toNat * 1024 + bits.toNat := by
  apply toNat_shiftLeft_or (by decide) hbits
  rw [show headerShift.toNat = 10 from rfl]
  omega

end Raised

/-! ## Rows of a block -/

/-- Only row 0 has bits of the reaction below its header. -/
theorem withReactionBits_raised (index : Nat) (bits : UInt32) (r : Row) :
    withReactionBits index bits r.raised =
      { r with header := (r.header <<< headerShift) ||| (if index = 0 then bits else 0) } := by
  by_cases h : index = 0
  · simp only [withReactionBits, if_pos h, Row.raised]
  · simp only [withReactionBits, if_neg h, Row.raised, UInt32.or_zero]

/-- The fields of a row, as a summary shows them. -/
def Row.summary (index : Nat) (r : Row) : ConditionSummary :=
  { row := index, value := r.value, modes := r.modes, leaves := r.leaves }

theorem ConditionSummary.ofRow_raised {r : Row} (hheader : r.header.toNat < 2 ^ 19) {bits : UInt32}
    (hbits : bits.toNat < 2 ^ 10) (index : Nat) :
    ofRow index (withReactionBits index bits r.raised) = r.summary index := by
  -- What stands below the raised header has ten bits in every row.
  have hbelow : (if index = 0 then bits else 0).toNat < 2 ^ 10 := by
    split
    · exact hbits
    · decide
  simp only [withReactionBits_raised, ofRow, raised_shiftRight hheader hbelow]
  rfl

/-- The row that stands raised in the block of a condition that was never set. -/
def Row.blank : Row :=
  { header := 16, lower := neverWord, middle := neverWord, upper := neverWord }

theorem raised_blank : Row.blank.raised = unsetRow := by
  decide

theorem summary_blank (index : Nat) : Row.blank.summary index = ConditionSummary.unset index := by
  rw [Row.summary, ConditionSummary.unset, ConditionSummary.mk.injEq]
  refine ⟨rfl, ?_, ?_, ?_⟩ <;> decide

/-- The row at an index of a block, before it is raised. -/
def rowBefore (list : List Addition) (index : Nat) : Row :=
  inSlot (fun a => flatten a.tree a.value) Row.blank list index

theorem raised_rowBefore (list : List Addition) (index : Nat) :
    (rowBefore list index).raised = inSlot Addition.row unsetRow list index := by
  rcases Nat.lt_or_ge index list.length with hused | hfree
  · rw [rowBefore, inSlot_of_lt _ _ hused, inSlot_of_lt _ _ hused, Addition.row]
  · rw [rowBefore, inSlot_of_ge _ _ hfree, inSlot_of_ge _ _ hfree, raised_blank]

theorem header_rowBefore_lt (list : List Addition) (index : Nat) :
    (rowBefore list index).header.toNat < 2 ^ 19 := by
  rcases Nat.lt_or_ge index list.length with hused | hfree
  · rw [rowBefore, inSlot_of_lt _ _ hused]
    exact Row.header_pack_lt _ _
  · rw [rowBefore, inSlot_of_ge _ _ hfree]
    decide

/-- For leaves of nine bits, the fields of a row are what was authored there. -/
theorem summary_rowBefore {list : List Addition} (hfit : ∀ a ∈ list, a.tree.Fits) (index : Nat) :
    (rowBefore list index).summary index =
      inSlot (Addition.summary index) (ConditionSummary.unset index) list index := by
  rcases Nat.lt_or_ge index list.length with hused | hfree
  · have htree : list[index].tree.Fits := hfit _ (List.getElem_mem hused)
    have hleaves : ∀ (j : Nat) (hj : j < 8), ((Flat.ofTree list[index].tree).leaves[j]).Fits :=
      fun _ hj => Flat.fits_leaves_ofTree htree hj
    rw [rowBefore, inSlot_of_lt _ _ hused, inSlot_of_lt _ _ hused, flatten, Row.summary,
      Row.value_pack, Row.modes_pack, Row.leaves_pack hleaves, Addition.summary]
  · rw [rowBefore, inSlot_of_ge _ _ hfree, inSlot_of_ge _ _ hfree, summary_blank]

/-! ## Blocks -/

namespace ReactionSummary

theorem length_conditions_ofBlock (tile : UInt32) (slot : Nat) (b : Block) :
    (ofBlock tile slot b).conditions.length = 16 := by
  simp [ofBlock]

theorem getElem_conditions_ofBlock (tile : UInt32) (slot : Nat) (b : Block) {i : Nat} (hi : i < 16)
    (h : i < (ofBlock tile slot b).conditions.length) :
    (ofBlock tile slot b).conditions[i] = ConditionSummary.ofRow i b.rows[i] := by
  simp [ofBlock]

end ReactionSummary

/-- The header that also carries the bits of the reaction. -/
def Block.firstHeader (b : Block) : UInt32 :=
  (b.rows.get 0).header

namespace Reaction

variable {r : Reaction} {resultTile : UInt32} {bias : Int} {list : List Addition}

theorem Carries.ofRow (h : r.Carries resultTile bias list) {i : Nat} (hi : i < 16) :
    ConditionSummary.ofRow i r.block.rows[i] = (rowBefore list i).summary i := by
  rw [h.rows hi, ← raised_rowBefore, ConditionSummary.ofRow_raised (header_rowBefore_lt list i)
    (reactionBits_lt resultTile bias)]

theorem Carries.toNat_header (h : r.Carries resultTile bias list) :
    r.block.firstHeader.toNat =
      (rowBefore list 0).header.toNat * 1024 +
        ((storeValue bias).toNat * 32 + resultTile.toNat % 32) := by
  have hfirst : r.block.rows.get 0 = _ := h.rows (by decide)
  rw [Block.firstHeader, hfirst, ← raised_rowBefore, withReactionBits_raised, if_pos rfl,
    toNat_raised (header_rowBefore_lt list 0) (reactionBits_lt resultTile bias),
    toNat_reactionBits]

theorem Carries.resultTile_decoded (h : r.Carries resultTile bias list) :
    r.block.firstHeader &&& tileMask = resultTile % 32 := by
  apply UInt32.toNat_inj.1
  rw [toNat_and_mask 5 rfl, h.toNat_header, UInt32.toNat_mod]
  show _ = resultTile.toNat % 32
  omega

theorem Carries.bias_decoded (h : r.Carries resultTile bias list) :
    loadValue (r.block.firstHeader >>> 5) = wrapValue bias := by
  have hstored := storeValue_lt bias
  apply loadValue_of_stored
  -- The result tile is shifted out, and the header of the condition is above the mask.
  rw [toNat_shiftRight_of_lt (by decide), h.toNat_header]
  show _ / 2 ^ 5 % 32 = _
  omega

/-- The summary of a block that carries conditions is the summary of these conditions. -/
theorem Carries.ofBlock (h : r.Carries resultTile bias list) (hfit : ∀ a ∈ list, a.tree.Fits)
    (tile : UInt32) (slot : Nat) :
    ReactionSummary.ofBlock tile slot r.block =
      ReactionSummary.ofConditions tile slot resultTile bias list := by
  rw [ReactionSummary.ofBlock, ReactionSummary.ofConditions, ReactionSummary.mk.injEq]
  refine ⟨rfl, rfl, h.resultTile_decoded, h.bias_decoded, ?_⟩
  apply List.ext_getElem
  · simp
  · intro i hi hspec
    have hrow : i < 16 := by simpa using hi
    refine (ReactionSummary.getElem_conditions_ofBlock tile slot r.block hrow hi).trans ?_
    rw [h.ofRow hrow, List.getElem_ofFn]
    exact summary_rowBefore hfit i

end Reaction

theorem Draft.ofBlock_reaction {d : Draft} (hfit : d.Fits) (tile : UInt32) (slot : Nat) :
    ReactionSummary.ofBlock tile slot d.reaction.block =
      ReactionSummary.ofConditions tile slot d.resultTile d.bias d.conditions :=
  d.carries.ofBlock (fun a ha => hfit a (mem_additions ha)) tile slot

/-- The no-op block is the block of a reaction without conditions. -/
theorem noopBlock_eq_new (tile : UInt32) : noopBlock tile = (Reaction.new tile (-16)).block := by
  have hbits : Reaction.reactionBits tile (-16) = tile &&& tileMask := by
    rw [Reaction.reactionBits, show storeValue (-16) <<< 5 = 0 from by decide, UInt32.zero_or]
  rw [noopBlock, Reaction.new, hbits]

theorem ofBlock_noopBlock (tile : UInt32) (slot : Nat) :
    ReactionSummary.ofBlock tile slot (noopBlock tile) =
      ReactionSummary.ofConditions tile slot tile (-16) [] := by
  rw [noopBlock_eq_new]
  exact (Reaction.carries_new tile (-16)).ofBlock (fun _ h => absurd h List.not_mem_nil) tile slot

/-! ## Slots of a table -/

namespace RuleTable

variable {t next : RuleTable} {id : UInt32} {r : Reaction}

theorem decodeReaction_of_block {slot : Nat} {b : Block} (h : t.block id slot = .ok b) :
    t.decodeReaction id slot = .ok (ReactionSummary.ofBlock id slot b) := by
  rw [decodeReaction, h]
  rfl

/-- A reaction that was stored stays in its slot. -/
theorem block_of_stored (h : t.addReaction id r = .ok next) (further : List (UInt32 × Reaction)) :
    (attempts register next further).block id (t.reactionCount id) = .ok r.block := by
  obtain ⟨tile, hfree, hid, rfl⟩ := exists_place h
  -- The slot that was free is in use now, so later registrations leave it alone.
  have hused : t.count tile < (t.place tile ⟨t.count tile, hfree⟩ r).count tile := by
    rw [count_place, if_pos rfl]
    exact Nat.lt_succ_self _
  rw [t.reactionCount_of_lt hid, block_of_lt _ hid hfree, attempts_keeps hused]
  exact congrArg Except.ok (blockOf_placeBlock_self t.words tile _ r.block)

end RuleTable

/-- The first reaction of a tile type decodes to what was authored. -/
theorem Draft.decodeReaction_first {d : Draft} (hfit : d.Fits) (id : UInt32) (tile : Fin 32)
    (hid : id.toNat = tile.val) :
    ∃ next, RuleTable.empty.addReaction id d.reaction = .ok next ∧
      next.decodeReaction id 0 = .ok (.ofConditions id 0 d.resultTile d.bias d.conditions) := by
  have hcount := RuleTable.count_empty tile
  have hslot := (RuleTable.reactionCount_of_lt RuleTable.empty hid).trans hcount
  obtain ⟨next, hstored⟩ : ∃ next, RuleTable.empty.addReaction id d.reaction = .ok next :=
    ⟨_, RuleTable.addReaction_of_free hid (by omega)⟩
  have hblock := RuleTable.block_of_stored hstored []
  rw [hslot] at hblock
  refine ⟨next, hstored, ?_⟩
  exact (RuleTable.decodeReaction_of_block hblock).trans
    (congrArg Except.ok (Draft.ofBlock_reaction hfit id 0))

/-- A stored reaction decodes to what was authored, whatever is registered later, and every slot
without a reaction decodes to one that turns its tile into itself under no satisfiable condition. -/
theorem decoding_inverts_authoring :
    (∀ (d : Draft) (t next : RuleTable) (id : UInt32), d.Fits →
      t.addReaction id d.reaction = .ok next →
      ∀ further : List (UInt32 × Reaction),
        (attempts RuleTable.register next further).decodeReaction id (t.reactionCount id) =
          .ok (ReactionSummary.ofConditions id (t.reactionCount id) d.resultTile d.bias
            d.conditions)) ∧
      ∀ (run : List (UInt32 × Reaction)) (id : UInt32) (slot : Nat), id.toNat < 32 →
        (registered run id).length ≤ slot → slot < 8 →
        (RuleTable.ofRun run).decodeReaction id slot =
          .ok
            { tile := id
              slot
              resultTile := id
              bias := -16
              conditions := List.ofFn fun i : Fin 16 => ConditionSummary.unset i.val } := by
  constructor
  · intro d t next id hfit hstored further
    rw [RuleTable.decodeReaction_of_block (RuleTable.block_of_stored hstored further),
      Draft.ofBlock_reaction hfit]
  · intro run id slot hid hfree hslot
    obtain ⟨tile, htile⟩ : ∃ tile : Fin 32, id.toNat = tile.val := ⟨⟨id.toNat, hid⟩, rfl⟩
    have hblock := (RuleTable.represents_ofRun run).block htile hslot
    have hsame : id % 32 = id := by
      apply UInt32.toNat_inj.1
      rw [UInt32.toNat_mod]
      exact Nat.mod_eq_of_lt hid
    rw [inSlot_of_ge _ _ hfree] at hblock
    rw [RuleTable.decodeReaction_of_block hblock, ofBlock_noopBlock, ReactionSummary.ofConditions,
      hsame]
    rfl

/-- One condition that is taken, and one that is refused for its depth. -/
def tallDraft : Draft :=
  { resultTile := 37
    bias := 17
    additions :=
      [⟨.op .nor (.leaf (.ofParts 1 0 1)) (.leaf (.ofParts 2 4 2)), 20, .truncate⟩,
       ⟨.op .or (.op .and (.op .and (.op .and (.leaf .never) (.leaf .never)) (.leaf .never))
         (.leaf .never)) (.leaf .never), 1, .reject⟩] }

theorem tallDraft_decodes :
    ∃ first, tallDraft.conditions = [first] ∧
      ∃ next, RuleTable.empty.addReaction 3 tallDraft.reaction = .ok next ∧
        next.decodeReaction 3 0 = .ok (ReactionSummary.ofConditions 3 0 37 17 [first]) := by
  have hfit : tallDraft.Fits := by decide
  have hfree : RuleTable.empty.count 3 < 8 := by decide
  have hstored : RuleTable.empty.addReaction 3 tallDraft.reaction = _ :=
    RuleTable.addReaction_of_free rfl hfree
  exact ⟨_, rfl, _, hstored, decoding_inverts_authoring.1 tallDraft _ _ 3 hfit hstored []⟩

end TileRules
