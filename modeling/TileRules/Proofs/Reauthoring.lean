import TileRules.Proofs.Additions
import TileRules.Proofs.Import
import TileRules.Proofs.Repacking

/-!
# Reauthoring — a reaction is built again from its summary

A summary names seven modes and eight leaves for every row, which is a complete tree of three
levels. Such a tree is never too deep, so a reaction can be built again from the summary of any
block, even of one that was never authored here. What the words of the block say is in the summary,
and the new block only misses bits that no field uses.

- `ReactionSummary.reauthor` builds the reaction, and `ReactionSummary.reauthor_eq` says that no
  condition is refused;
- `usedBits` are the bits of a block that some field uses, and `Row.usedIn` clears the others;
- `ReactionSummary.getElem_rows_reauthored` compares the rows of the two blocks.
-/

namespace TileRules

open Layout

/-! ## Authored again -/

/-- The condition that a decoded row says. -/
def ConditionSummary.addition (c : ConditionSummary) : Addition :=
  { tree := c.flat.toTree, value := c.value, policy := .reject }

theorem ConditionSummary.depth_addition (c : ConditionSummary) : c.addition.tree.depth ≤ 3 := by
  refine Nat.le_of_not_lt fun hdeep => ?_
  rw [← Flat.truncated_pos_iff, addition, Flat.ofTree_toTree] at hdeep
  exact Nat.lt_irrefl 0 hdeep

namespace ReactionSummary

/-- Builds the reaction of a summary, with a check of depth for every row. -/
def reauthor (s : ReactionSummary) : Except RuleError Reaction :=
  s.conditions.foldlM (fun r c => r.addConditionStrict c.flat.toTree c.value)
    (Reaction.new s.resultTile s.bias)

def draft (s : ReactionSummary) : Draft :=
  { resultTile := s.resultTile
    bias := s.bias
    additions := s.conditions.map ConditionSummary.addition }

theorem conditions_draft {s : ReactionSummary} (h : s.conditions.length ≤ 16) :
    s.draft.conditions = s.draft.additions := by
  apply (Reaction.carries_new s.resultTile s.bias).accepted_eq_self
  -- There is room for every row, and complete trees of three levels are not too deep.
  · rw [draft, List.length_map, List.length_nil, Nat.zero_add]
    exact h
  · intro a ha
    obtain ⟨c, _, rfl⟩ := List.mem_map.1 ha
    exact fun hdeep => Nat.not_lt.2 c.depth_addition hdeep.2

theorem reauthor_eq {s : ReactionSummary} (h : s.conditions.length ≤ 16) :
    s.reauthor = .ok s.draft.reaction := by
  rw [Draft.reaction, ← foldlM_eq_ok_attempts (conditions_draft h), draft, List.foldlM_map]
  rfl

end ReactionSummary

/-! ## Bits in use -/

/-- The bits of a block that some field uses, for the word at a row and column: the header of row 0
has twenty-nine of them, and the other headers leave the ten bits of the reaction unused. -/
def usedBits (row col : Nat) : UInt32 :=
  if col = 0 then
    if row = 0 then 0x1fffffff else 0x1ffffc00
  else if col = 3 then 0x3ffff else 0x7ffffff

namespace Row

/-- A row of a block with only the bits that some field uses. -/
def usedIn (index : Nat) (r : Row) : Row :=
  { header := r.header &&& usedBits index 0
    lower := r.lower &&& usedBits index 1
    middle := r.middle &&& usedBits index 2
    upper := r.upper &&& usedBits index 3 }

theorem get_words_usedIn (index : Nat) (r : Row) (col : Fin 4) :
    (r.usedIn index).words.get col = r.words.get col &&& usedBits index col.val := by
  match col with
  | 0 => rfl
  | 1 => rfl
  | 2 => rfl
  | 3 => rfl

/-- A row of a block as a row of its own. -/
def lowered (r : Row) : Row :=
  { r with header := r.header >>> headerShift }

theorem flatten_ofRow (index : Nat) (r : Row) :
    flatten (ConditionSummary.ofRow index r).flat.toTree (ConditionSummary.ofRow index r).value =
      r.lowered.used := by
  rw [flatten, Flat.ofTree_toTree]
  exact r.lowered.pack_flat

end Row

section Header

variable (header : UInt32)

theorem toNat_bitsBelow_decoded :
    (Reaction.bitsBelow (header &&& tileMask) (loadValue (header >>> 5)) 0).toNat =
      header.toNat % 1024 := by
  have htile : (header &&& tileMask).toNat = header.toNat % 32 := toNat_and_mask 5 rfl
  have hshift : (header >>> 5).toNat = header.toNat / 32 := toNat_shiftRight_of_lt (by decide)
  have hbits : (Reaction.bitsBelow (header &&& tileMask) (loadValue (header >>> 5)) 0).toNat = _ :=
    Reaction.toNat_reactionBits (header &&& tileMask) (loadValue (header >>> 5))
  rw [hbits, htile, storeValue_loadValue, hshift]
  omega

/-- The first header carries the bits of the reaction, from the lowest bit on. -/
theorem header_used_first :
    (((header >>> headerShift) &&& 0x7ffff) <<< headerShift) |||
        Reaction.bitsBelow (header &&& tileMask) (loadValue (header >>> 5)) 0 =
      header &&& usedBits 0 0 := by
  have hlowered : ((header >>> headerShift) &&& 0x7ffff).toNat =
      header.toNat / 1024 % 2 ^ 19 := by
    rw [toNat_and_mask 19 rfl, toNat_shiftRight_of_lt (by decide)]
    rfl
  have hbelow := toNat_bitsBelow_decoded header
  have hused : (header &&& usedBits 0 0).toNat = header.toNat % 2 ^ 29 := toNat_and_mask 29 rfl
  apply UInt32.toNat_inj.1
  rw [toNat_raised (by omega) (by omega), hlowered, hbelow, hused]
  omega

theorem header_used_later {index : Nat} (h : index ≠ 0) (resultTile : UInt32) (bias : Int) :
    (((header >>> headerShift) &&& 0x7ffff) <<< headerShift) |||
        Reaction.bitsBelow resultTile bias index =
      header &&& usedBits index 0 := by
  have hmask : usedBits index 0 = 0x7ffff <<< headerShift := by
    rw [usedBits, if_pos rfl, if_neg h]
    rfl
  rw [Reaction.bitsBelow, if_neg h, UInt32.or_zero, hmask, and_shiftLeft _ _ (by decide)]

end Header

/-! ## Blocks -/

namespace ReactionSummary

/-- A row that is authored again keeps the bits that are in use. -/
theorem getElem_rows_reauthored (tile : UInt32) (slot : Nat) (b : Block) {i : Nat} (hi : i < 16) :
    (ofBlock tile slot b).draft.reaction.block.rows[i] = b.rows[i].usedIn i := by
  have hlength := length_conditions_ofBlock tile slot b
  have hindex : i < (ofBlock tile slot b).conditions.length := by omega
  have hcarries := (ofBlock tile slot b).draft.carries
  rw [conditions_draft (Nat.le_of_eq hlength)] at hcarries
  -- The condition of the row is authored with the value of the row.
  have hbefore : rowBefore (ofBlock tile slot b).draft.additions i = b.rows[i].lowered.used := by
    rw [rowBefore, draft, inSlot_of_lt _ _ (by rwa [List.length_map])]
    simp only [List.getElem_map, getElem_conditions_ofBlock tile slot b hi hindex]
    exact Row.flatten_ofRow i b.rows[i]
  rw [hcarries.getElem_rows hi, hbefore, Row.used, Row.usedIn, Row.mk.injEq]
  refine ⟨?_, rfl, rfl, rfl⟩
  by_cases hfirst : i = 0
  · subst hfirst
    exact header_used_first b.rows[0].header
  · exact header_used_later b.rows[i].header hfirst _ _

theorem conditionCount_reauthored (tile : UInt32) (slot : Nat) (b : Block) :
    (ofBlock tile slot b).draft.reaction.conditionCount = 16 := by
  have hlength := length_conditions_ofBlock tile slot b
  rw [(Draft.carries _).count, conditions_draft (Nat.le_of_eq hlength), draft, List.length_map,
    hlength]

theorem data_reauthored (tile : UInt32) (slot : Nat) (b : Block) :
    (ofBlock tile slot b).draft.reaction.data =
      Vector.ofFn fun word : Fin 64 =>
        b.words.get word &&& usedBits (word.val / 4) (word.val % 4) := by
  apply Vector.ext
  intro word hword
  -- Every word stands in a column of a row.
  obtain ⟨row, col, rfl⟩ : ∃ (row : Fin 16) (col : Fin 4), row.val * 4 + col.val = word :=
    ⟨⟨word / 4, by omega⟩, ⟨word % 4, by omega⟩, by simp only; omega⟩
  have hrow : (row.val * 4 + col.val) / 4 = row.val := by omega
  have hcol : (row.val * 4 + col.val) % 4 = col.val := by omega
  rw [Reaction.data, Block.getElem_words _ row.isLt col.isLt,
    getElem_rows_reauthored tile slot b row.isLt, Vector.getElem_ofFn]
  simp only [hrow, hcol, Flat.get_eq_getElem, b.getElem_words row.isLt col.isLt]
  exact Row.get_words_usedIn row.val b.rows[row.val] col

end ReactionSummary

/-- A table can hold any words, and what is decoded from one of its blocks is enough to author the
block again: no condition is refused, and only bits that no field uses are lost. The block has the
words that stand in its cells. -/
theorem reauthoring_keeps_used_bits (cells : Vector UInt32 16384) (tile : Fin 32) (slot : Fin 8) :
    ∃ t b s r, RuleTable.fromWords cells.toArray = .ok t ∧
      t.block (UInt32.ofNat tile.val) slot.val = .ok b ∧
      (∀ (row : Fin 16) (col : Fin 4),
        (b.rows.get row).words.get col = cells.get (RuleTable.cellIndex tile slot row col)) ∧
      t.decodeReaction (UInt32.ofNat tile.val) slot.val = .ok s ∧
      s.conditions.length = 16 ∧ s.reauthor = .ok r ∧ r.conditionCount = 16 ∧
      r.data = Vector.ofFn fun word : Fin 64 =>
        b.words.get word &&& usedBits (word.val / 4) (word.val % 4) := by
  have hblock := RuleTable.block_of_lt
    { words := cells, counts := Vector.ofFn (RuleTable.usedSlots cells) }
    (RuleTable.toNat_ofNat_tile tile) slot.isLt
  have hlength := ReactionSummary.length_conditions_ofBlock (UInt32.ofNat tile.val) slot.val
    (RuleTable.blockOf cells tile slot)
  exact ⟨_, _, _, _, RuleTable.fromWords_toArray cells, hblock,
    RuleTable.getElem_blockOf cells tile slot, RuleTable.decodeReaction_of_block hblock, hlength,
    ReactionSummary.reauthor_eq (Nat.le_of_eq hlength),
    ReactionSummary.conditionCount_reauthored _ _ _, ReactionSummary.data_reauthored _ _ _⟩

end TileRules
