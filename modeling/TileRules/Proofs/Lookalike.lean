import TileRules.Proofs.Import
import TileRules.Proofs.TableBytes

/-!
# Lookalike — reactions that cannot be told from an unused slot

An unused slot holds a block that turns its tile into itself under no satisfiable condition. A
reaction without conditions can have the same block, and no other reaction can: the third leaf word
of a condition has room for two leaves only, and the unset row has three there.

- `Reaction.Lookalike` are the reactions with the block of an unused slot
  (`Reaction.Carries.block_eq_noopBlock_iff`);
- `Represents.usedSlots_eq_iff`: the slots in use of a tile type are counted rightly exactly if its
  last reaction has another block;
- `inferred_counts_are_right_iff` puts them together.
-/

namespace TileRules

open Layout

/-! ## Rows -/

/-- The row of a condition has nothing above the two leaves of its last word. -/
theorem upper_row_lt (a : Addition) : a.row.upper.toNat < 2 ^ 25 := by
  have hleaf : ∀ l : Leaf, l.bits.toNat < 2 ^ 16 := by
    intro l
    rw [Leaf.bits, UInt16.toNat_toUInt32]
    exact l.raw.toNat_lt
  have hsecond := hleaf (Flat.ofTree a.tree).leaves[7]
  have hupper : a.row.upper =
      (((0 <<< leafBits) ||| (Flat.ofTree a.tree).leaves[7].bits) <<< leafBits) |||
        (Flat.ofTree a.tree).leaves[6].bits :=
    rfl
  rw [hupper, UInt32.zero_shiftLeft, UInt32.zero_or, UInt32.toNat_or, UInt32.toNat_shiftLeft,
    show leafBits.toNat % 32 = 9 from rfl, Nat.shiftLeft_eq]
  refine Nat.or_lt_two_pow ?_ (Nat.lt_trans (hleaf _) (by decide))
  omega

/-- No condition leaves its row as it was, whatever stands below the header of the first row. -/
theorem row_ne_unsetRow (a : Addition) (index : Nat) (bits bits' : UInt32) :
    withReactionBits index bits a.row ≠ withReactionBits index bits' unsetRow := by
  intro h
  have hupper : a.row.upper = neverWord := by
    have hfield := congrArg Row.upper h
    simp only [withReactionBits] at hfield
    split at hfield <;> exact hfield
  have hlt := upper_row_lt a
  rw [hupper] at hlt
  exact absurd hlt (by decide)

/-! ## Blocks -/

theorem Block.words_inj {b c : Block} : b.words = c.words ↔ b = c := by
  constructor
  · intro h
    cases b with
    | mk rows =>
        cases c with
        | mk rows' =>
            rw [Block.mk.injEq]
            apply Vector.ext
            intro row hrow
            apply Row.ext_words
            intro col
            have hword : row * 4 + col.val < 64 := by omega
            have hleft := Block.getElem_words ⟨rows⟩ hrow col.isLt hword
            have hright := Block.getElem_words ⟨rows'⟩ hrow col.isLt hword
            exact hleft.symm.trans ((congrArg (·[row * 4 + col.val]) h).trans hright)
  · exact congrArg Block.words

namespace Reaction

/-- A reaction on a tile type that has the block of an unused slot: it has no conditions, it turns
the tile into itself, and its bias is stored as zero. -/
def Lookalike (r : Reaction) (tile : UInt32) : Prop :=
  r.conditionCount = 0 ∧ r.resultTile % 32 = tile ∧ r.bias % 32 = 16

variable {r : Reaction} {resultTile : UInt32} {bias : Int} {list : List Addition}

theorem Carries.row_ne_noopBlock (h : r.Carries resultTile bias list) {i : Nat} (hi : i < 16)
    (hused : i < list.length) (tile : UInt32) :
    r.block.rows[i] ≠ (noopBlock tile).rows[i] := by
  rw [h.rows hi, inSlot_of_lt _ _ hused, noopBlock, unsetBlock]
  simp only [Vector.getElem_ofFn]
  exact row_ne_unsetRow _ _ _ _

/-- Without conditions, the first header says all about a block. -/
theorem Carries.block_eq_new_iff (h : r.Carries resultTile bias []) {tile : UInt32} :
    r.block = noopBlock tile ↔ resultTile % 32 = tile % 32 ∧ bias % 32 = 16 := by
  have hheader := h.toNat_header
  have hnoop := (carries_new tile (-16)).toNat_header
  rw [← noopBlock_eq_new] at hnoop
  have hbias := toNat_storeValue bias
  have hzero : (storeValue (-16)).toNat = 0 := by decide
  have htile : resultTile % 32 = tile % 32 ↔ resultTile.toNat % 32 = tile.toNat % 32 := by
    rw [← UInt32.toNat_inj, UInt32.toNat_mod, UInt32.toNat_mod]
    exact Iff.rfl
  rw [htile]
  constructor
  · intro heq
    rw [heq] at hheader
    omega
  · rintro ⟨hresult, hstored⟩
    have hbits : reactionBits resultTile bias = reactionBits tile (-16) := by
      apply UInt32.toNat_inj.1
      rw [toNat_reactionBits, toNat_reactionBits, hresult]
      omega
    rw [noopBlock_eq_new]
    cases hblock : r.block with
    | mk rows =>
        rw [new, unsetBlock, Block.mk.injEq]
        apply Vector.ext
        intro i hi
        have hrow := h.rows hi
        rw [hblock] at hrow
        rw [Vector.getElem_ofFn, hrow, hbits]
        rfl

theorem Carries.block_eq_noopBlock_iff (h : r.Carries resultTile bias list) {tile : UInt32}
    (htile : tile.toNat < 32) : r.block = noopBlock tile ↔ r.Lookalike tile := by
  have hsame : tile % 32 = tile := by
    apply UInt32.toNat_inj.1
    rw [UInt32.toNat_mod]
    exact Nat.mod_eq_of_lt htile
  rw [Lookalike, h.count, h.resultTile_eq, h.bias_eq]
  cases list with
  | nil =>
      rw [h.block_eq_new_iff, hsame]
      exact (and_iff_right rfl).symm
  | cons a list =>
      -- The first condition has changed the first row.
      have hrow := h.row_ne_noopBlock (by decide) (Nat.zero_lt_succ _) tile
      refine iff_of_false (fun heq => hrow ?_) (fun hnone => ?_)
      · simp only [heq]
      · exact absurd hnone.1 (Nat.succ_ne_zero _)

end Reaction

/-! ## Tables -/

namespace RuleTable

/-- Only the last reaction of a tile type decides whether its slots in use are counted rightly. -/
theorem Represents.usedSlots_eq_iff {t : RuleTable} {lists : UInt32 → List Reaction}
    (h : Represents t lists) {id : UInt32} {tile : Fin 32} (hid : id.toNat = tile.val) :
    t.count tile = usedSlots t.words tile ↔
      ∀ r, (lists id).getLast? = some r → r.block ≠ noopBlock id := by
  have htile : UInt32.ofNat tile.val = id := by
    apply UInt32.toNat_inj.1
    rw [toNat_ofNat_tile, hid]
  have hblock : ∀ slot : Fin 8, blockOf t.words tile slot =
      inSlot Reaction.block (noopBlock id) (lists id) slot.val :=
    fun slot => h.blocks slot hid
  have hle : usedSlots t.words tile ≤ (lists id).length := by
    refine (covers_iff.1 (h.covers (Nat.le_of_eq ?_) (h.length_le id))).2
    rw [htile]
  rw [h.counts hid]
  rcases List.eq_nil_or_concat (lists id) with hnil | ⟨before, last, hlast⟩
  · rw [hnil] at hle ⊢
    exact iff_of_true (Nat.le_zero.1 hle).symm (fun r hr => by cases hr)
  · have hroom := h.length_le id
    rw [List.concat_eq_append] at hlast
    rw [hlast, List.length_append, List.length_singleton] at hle hroom ⊢
    rw [List.getLast?_concat]
    -- One slot less is enough exactly if the last reaction is not seen.
    have hless : usedSlots t.words tile ≤ before.length ↔ last.block = noopBlock id := by
      rw [usedSlots_le_iff, htile]
      constructor
      · intro hnoop
        have hslot := hnoop ⟨before.length, hroom⟩ (Nat.le_refl _)
        rw [hblock, hlast, inSlot_concat, if_pos rfl] at hslot
        exact hslot
      · intro hsame slot hslot
        rw [hblock, hlast, inSlot_concat, inSlot_of_ge _ _ hslot, hsame]
        split <;> rfl
    constructor
    · rintro heq r hr hnoop
      cases hr
      have hcount := hless.2 hnoop
      omega
    · intro hseen
      have hmore : ¬ usedSlots t.words tile ≤ before.length :=
        fun hcount => hseen last rfl (hless.1 hcount)
      omega

end RuleTable

/-- A run of registrations of authored reactions. -/
def authoredRun (calls : List (UInt32 × Draft)) : List (UInt32 × Reaction) :=
  calls.map fun call => (call.1, call.2.reaction)

/-- What stands in a list was registered for its tile id. -/
theorem exists_call_of_registered {calls : List (UInt32 × Draft)} {id : UInt32} {r : Reaction}
    (h : r ∈ registered (authoredRun calls) id) : ∃ d, (id, d) ∈ calls ∧ r = d.reaction := by
  rw [registered, reactionsFor, List.mem_filterMap] at h
  obtain ⟨call, hcall, hr⟩ := h
  obtain ⟨⟨other, d⟩, hmem, rfl⟩ := List.mem_map.1 (mem_of_mem_accepted hcall)
  dsimp only at hr
  split at hr
  · rename_i hsame
    subst hsame
    exact ⟨d, hmem, (Option.some.inj hr).symm⟩
  · cases hr

theorem exists_draft_of_registered {calls : List (UInt32 × Draft)} {id : UInt32} {r : Reaction}
    (h : r ∈ registered (authoredRun calls) id) : ∃ d : Draft, r = d.reaction := by
  obtain ⟨d, _, hr⟩ := exists_call_of_registered h
  exact ⟨d, hr⟩

theorem Reaction.eq_new_of_checked {resultTile : UInt32} {bias : Int} {r : Reaction}
    (h : Reaction.checked resultTile bias = .ok r) : r = Reaction.new resultTile bias := by
  rw [Reaction.checked] at h
  split at h
  · cases h
  · split at h
    · cases h
    · exact (Except.ok.inj h).symm

/-- The counts that are read off the words of an authored table are those of the table exactly if no
last reaction of a tile type has the block of an unused slot.

The other parts say which authored reactions have that block, that every condition changes its row,
and that a reaction whose result tile and bias were checked starts like any other. -/
theorem inferred_counts_are_right_iff (calls : List (UInt32 × Draft)) :
    (RuleTable.fromWords (authoredTable calls).words.toArray = .ok (authoredTable calls) ↔
      ∀ id r, (registered (authoredRun calls) id).getLast? = some r → ¬ r.Lookalike id) ∧
      (∀ (d : Draft) (id : UInt32), id.toNat < 32 →
        (d.reaction.data = (noopBlock id).words ↔ d.reaction.Lookalike id)) ∧
      (∀ (d : Draft) (id : UInt32) (i : Nat) (hi : i < 16), i < d.conditions.length →
        d.reaction.block.rows[i] ≠ (noopBlock id).rows[i]) ∧
      ∀ (d : Draft) (r : Reaction),
        Reaction.checked d.resultTile d.bias = .ok r → r = d.start := by
  have hrun : (authoredTable calls).Represents (registered (authoredRun calls)) :=
    RuleTable.represents_ofRun (authoredRun calls)
  refine ⟨?_, ?_, ?_, fun d r hchecked => Reaction.eq_new_of_checked hchecked⟩
  · rw [RuleTable.fromWords_eq_ok_iff, and_iff_right rfl]
    constructor
    · intro hcounts id r hlast hlookalike
      have hmem := List.mem_of_getLast? hlast
      rcases RuleTable.exists_tile id with hge | ⟨tile, hid⟩
      · rw [registered_of_ge _ hge] at hmem
        exact absurd hmem List.not_mem_nil
      · obtain ⟨d, rfl⟩ := exists_draft_of_registered hmem
        have hblock := (hrun.usedSlots_eq_iff hid).1 (hcounts tile) _ hlast
        exact hblock ((d.carries.block_eq_noopBlock_iff (by omega)).2 hlookalike)
    · intro hlast tile
      have hid := RuleTable.toNat_ofNat_tile tile
      refine (hrun.usedSlots_eq_iff hid).2 fun r hr hblock => hlast _ r hr ?_
      obtain ⟨d, rfl⟩ := exists_draft_of_registered (List.mem_of_getLast? hr)
      exact (d.carries.block_eq_noopBlock_iff (by omega)).1 hblock
  · intro d id hid
    rw [Reaction.data, Block.words_inj]
    exact d.carries.block_eq_noopBlock_iff hid
  · intro d id i hi hused
    exact d.carries.row_ne_noopBlock hi hused id

end TileRules
