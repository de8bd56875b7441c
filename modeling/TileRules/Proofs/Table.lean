import TileRules.Table
import TileRules.Proofs.Grid

/-!
# Table — the blocks of the rule table

The 256 blocks of the table share one list of words, and together they cover it. So a table is known
by its blocks, and writing one block leaves the others as they are.

- `RuleTable.blockOf_eq_iff` reads a block cell by cell, and `RuleTable.words_ext` tells two lists
  of words apart by their blocks;
- `RuleTable.blockOf_placeBlock`: a written block is read back, and no other block changes;
- `RuleTable.addReaction_cases` lists everything that registering a reaction can do.
-/

namespace TileRules

open Layout

/-! ## Words of a block -/

theorem Block.getElem_words (b : Block) {row col : Nat} (hrow : row < 16) (hcol : col < 4)
    (hword : row * 4 + col < 64) : b.words[row * 4 + col] = (b.rows[row]).words[col] := by
  have hdiv : (row * 4 + col) / 4 = row := by omega
  have hmod : (row * 4 + col) % 4 = col := by omega
  rw [Block.words, Vector.getElem_flatten]
  simp only [Vector.getElem_map, hdiv, hmod]

theorem Row.ext_words {r q : Row} (h : ∀ col : Fin 4, r.words[col] = q.words[col]) : r = q := by
  cases r
  cases q
  rw [Row.mk.injEq]
  exact ⟨h 0, h 1, h 2, h 3⟩

namespace RuleTable

/-! ## Cells of a block -/

theorem cellIndex_inj {tile tile' : Fin 32} {slot slot' : Fin 8} {row row' : Fin 16}
    {col col' : Fin 4} (h : (cellIndex tile slot row col).val = cellIndex tile' slot' row' col') :
    tile = tile' ∧ slot = slot' ∧ row = row' ∧ col = col' := by
  simp only [cellIndex] at h
  omega

/-- Every cell of the table belongs to a block. -/
theorem exists_cellIndex {i : Nat} (h : i < 16384) :
    ∃ tile slot row col, (cellIndex tile slot row col).val = i := by
  refine ⟨⟨i % 128 / 4, by omega⟩, ⟨i / 128 / 16, by omega⟩, ⟨i / 128 % 16, by omega⟩,
    ⟨i % 4, by omega⟩, ?_⟩
  simp only [cellIndex]
  omega

section Blocks

variable {words words' : Vector UInt32 16384}

theorem getElem_blockOf (words : Vector UInt32 16384) (tile : Fin 32) (slot : Fin 8)
    (row : Fin 16) (col : Fin 4) :
    ((blockOf words tile slot).rows[row]).words[col] = words[cellIndex tile slot row col] := by
  simp only [blockOf, Fin.getElem_fin, Vector.getElem_ofFn]
  match col with
  | 0 => rfl
  | 1 => rfl
  | 2 => rfl
  | 3 => rfl

theorem blockOf_eq_iff {tile : Fin 32} {slot : Fin 8} {b : Block} :
    blockOf words tile slot = b ↔
      ∀ (row : Fin 16) (col : Fin 4),
        words[cellIndex tile slot row col] = (b.rows[row]).words[col] := by
  constructor
  · rintro rfl row col
    exact (getElem_blockOf words tile slot row col).symm
  · intro h
    cases b with
    | mk rows =>
        rw [blockOf, Block.mk.injEq]
        apply Vector.ext
        intro row hrow
        apply Row.ext_words
        intro col
        have hread := getElem_blockOf words tile slot ⟨row, hrow⟩ col
        exact hread.trans (h ⟨row, hrow⟩ col)

theorem words_ext (h : ∀ tile slot, blockOf words tile slot = blockOf words' tile slot) :
    words = words' := by
  apply Vector.ext
  intro i hi
  obtain ⟨tile, slot, row, col, rfl⟩ := exists_cellIndex hi
  exact (blockOf_eq_iff.1 (h tile slot) row col).trans (getElem_blockOf words' tile slot row col)

end Blocks

/-! ## Writing a block -/

/-- The cells with a block in one slot. -/
def placeBlock (words : Vector UInt32 16384) (tile : Fin 32) (slot : Fin 8) (b : Block) :
    Vector UInt32 16384 :=
  writeCells words tableWidth (column tile) (topRow slot) rowWords b.words.toArray

/-- A block of sixteen rows has a place at every slot. -/
theorem block_fits (tile : Fin 32) (slot : Fin 8) :
    RegionFits 16384 tableWidth tableHeight 64 (column tile) (topRow slot) rowWords where
  width_pos := by decide
  width_dvd := by decide
  columns_le := by
    simp only [column, rowWords, tableWidth]
    omega
  rows_le := by
    simp only [topRow, rowWords, conditionsPerReaction, tableHeight]
    omega
  cells_eq := rfl

theorem copyRegion_block (words : Vector UInt32 16384) (tile : Fin 32) (slot : Fin 8) (b : Block) :
    copyRegion words tableWidth tableHeight b.words.toArray (column tile) (topRow slot) rowWords =
      .ok (placeBlock words tile slot b) := by
  refine copyRegion_of_fits ?_ words
  rw [b.words.size_toArray]
  exact block_fits tile slot

theorem cellOf_eq_cellIndex (tile : Fin 32) (slot : Fin 8) (row : Fin 16) (col : Fin 4) :
    cellOf tableWidth (column tile) (topRow slot) rowWords (row.val * 4 + col.val) =
      (cellIndex tile slot row col).val := by
  have hdiv : (row.val * 4 + col.val) / 4 = row.val := by omega
  have hmod : (row.val * 4 + col.val) % 4 = col.val := by omega
  simp only [cellOf, cellIndex, column, topRow, rowWords, conditionsPerReaction, tableWidth, hdiv,
    hmod]
  omega

theorem blockOf_placeBlock_self (words : Vector UInt32 16384) (tile : Fin 32) (slot : Fin 8)
    (b : Block) : blockOf (placeBlock words tile slot b) tile slot = b := by
  rw [blockOf_eq_iff]
  intro row col
  have hword : row.val * 4 + col.val < b.words.toArray.size := by
    have hsize : b.words.toArray.size = 64 := b.words.size_toArray
    omega
  have hcell := cellOf_eq_cellIndex tile slot row col
  have hread := getElem_writeCells_of_hit (y := topRow slot) words b.words.toArray (by decide)
    (block_fits tile slot).columns_le hword (by rw [hcell]; exact (cellIndex tile slot row col).isLt)
  simp only [hcell] at hread
  exact hread.trans (b.getElem_words row.isLt col.isLt (by omega))

theorem blockOf_placeBlock_of_ne (words : Vector UInt32 16384) {tile tile' : Fin 32}
    {slot slot' : Fin 8} (h : ¬ (tile' = tile ∧ slot' = slot)) (b : Block) :
    blockOf (placeBlock words tile slot b) tile' slot' = blockOf words tile' slot' := by
  rw [blockOf_eq_iff]
  intro row col
  rw [getElem_blockOf]
  -- Every word of the block lands in a cell of its own slot.
  apply getElem_writeCells_of_miss
  intro k hk heq
  have hsize : b.words.toArray.size = 64 := b.words.size_toArray
  have hsplit : k = (⟨k / 4, by omega⟩ : Fin 16).val * 4 + (⟨k % 4, by omega⟩ : Fin 4).val := by
    simp only
    omega
  rw [hsplit, cellOf_eq_cellIndex] at heq
  obtain ⟨htile, hslot, _, _⟩ := cellIndex_inj heq
  exact h ⟨htile.symm, hslot.symm⟩

theorem blockOf_placeBlock (words : Vector UInt32 16384) (tile tile' : Fin 32) (slot slot' : Fin 8)
    (b : Block) :
    blockOf (placeBlock words tile slot b) tile' slot' =
      if tile' = tile ∧ slot' = slot then b else blockOf words tile' slot' := by
  split
  · rename_i h
    rw [h.1, h.2, blockOf_placeBlock_self]
  · rename_i h
    exact blockOf_placeBlock_of_ne words h b

/-! ## The empty table -/

theorem getElem_words_noopBlock (tile : Nat) (row : Fin 16) (col : Fin 4) :
    ((noopBlock (UInt32.ofNat tile)).rows[row]).words[col] = noopWord tile row.val col.val := by
  simp only [noopBlock, unsetBlock, Fin.getElem_fin, Vector.getElem_ofFn, withReactionBits,
    noopWord]
  match col with
  | 0 =>
      by_cases hrow : row.val = 0
      · simp [hrow, Row.words, unsetRow]
      · simp [hrow, Row.words, unsetRow]
  | 1 => split <;> rfl
  | 2 => split <;> rfl
  | 3 => split <;> rfl

theorem blockOf_empty (tile : Fin 32) (slot : Fin 8) :
    blockOf empty.words tile slot = noopBlock (UInt32.ofNat tile.val) := by
  rw [blockOf_eq_iff]
  intro row col
  have htile : (cellIndex tile slot row col).val % 128 / 4 = tile.val := by
    simp only [cellIndex]
    omega
  have hrow : (cellIndex tile slot row col).val / 128 % 16 = row.val := by
    simp only [cellIndex]
    omega
  have hcol : (cellIndex tile slot row col).val % 4 = col.val := by
    simp only [cellIndex]
    omega
  simp only [empty, Fin.getElem_fin, Vector.getElem_ofFn, htile, hrow, hcol]
  exact (getElem_words_noopBlock tile.val row col).symm

/-! ## Registering a reaction -/

theorem tileIndex_of_lt {id : UInt32} {tile : Fin 32} (h : id.toNat = tile.val) :
    tileIndex id = .ok tile := by
  have hlt : id.toNat < 32 := by omega
  rw [tileIndex, dif_pos hlt]
  exact congrArg Except.ok (Fin.ext h)

theorem tileIndex_of_ge {id : UInt32} (h : 32 ≤ id.toNat) :
    tileIndex id = .error (.rangeViolation (.tileType id)) := by
  rw [tileIndex, dif_neg (by omega)]

theorem exists_tile (id : UInt32) : 32 ≤ id.toNat ∨ ∃ tile : Fin 32, id.toNat = tile.val := by
  by_cases h : id.toNat < 32
  · exact Or.inr ⟨⟨id.toNat, h⟩, rfl⟩
  · exact Or.inl (by omega)

theorem block_of_lt (t : RuleTable) {id : UInt32} {tile : Fin 32} (htile : id.toNat = tile.val)
    {slot : Nat} (hslot : slot < 8) :
    t.block id slot = .ok (blockOf t.words tile ⟨slot, hslot⟩) := by
  rw [block, tileIndex_of_lt htile]
  show (if h : slot < 8 then _ else _) = _
  rw [dif_pos hslot]
  rfl

/-- Registered reactions of a tile type. -/
def count (t : RuleTable) (tile : Fin 32) : Nat :=
  t.counts.get tile

theorem count_empty (tile : Fin 32) : empty.count tile = 0 :=
  Vector.getElem_replicate tile.isLt

theorem counts_ext {t u : RuleTable} (h : ∀ tile, t.count tile = u.count tile) :
    t.counts = u.counts := by
  apply Vector.ext
  intro i hi
  exact h ⟨i, hi⟩

theorem reactionCount_of_lt (t : RuleTable) {id : UInt32} {tile : Fin 32}
    (htile : id.toNat = tile.val) : t.reactionCount id = t.count tile := by
  have hsome : t.counts[id.toNat]? = some (t.count tile) := by
    rw [htile]
    exact Vector.getElem?_eq_getElem tile.isLt
  rw [reactionCount, hsome]
  rfl

/-- The table with a reaction in a slot of a tile type, and one more reaction counted there. -/
def place (t : RuleTable) (tile : Fin 32) (slot : Fin 8) (r : Reaction) : RuleTable :=
  { words := placeBlock t.words tile slot r.block
    counts := t.counts.setIfInBounds tile.val (t.count tile + 1) }

theorem count_place (t : RuleTable) (tile tile' : Fin 32) (slot : Fin 8) (r : Reaction) :
    (t.place tile slot r).count tile' =
      if tile' = tile then t.count tile + 1 else t.count tile' := by
  by_cases h : tile' = tile
  · rw [if_pos h, h]
    exact Vector.getElem_setIfInBounds_self tile.isLt
  · rw [if_neg h]
    exact Vector.getElem_setIfInBounds_ne tile'.isLt (fun heq => h (Fin.ext heq.symm))

section Register

variable {t : RuleTable} {id : UInt32} {tile : Fin 32} {r : Reaction}

theorem addReaction_of_ge (h : 32 ≤ id.toNat) :
    t.addReaction id r = .error (.rangeViolation (.tileType id)) := by
  rw [addReaction, tileIndex_of_ge h]
  rfl

theorem addReaction_of_full (h : id.toNat = tile.val) (hfull : 8 ≤ t.count tile) :
    t.addReaction id r = .error (.capacityExceeded (.reactions id)) := by
  rw [addReaction, tileIndex_of_lt h]
  exact dif_neg (Nat.not_lt.2 hfull)

theorem addReaction_of_free (h : id.toNat = tile.val) (hfree : t.count tile < 8) :
    t.addReaction id r = .ok (t.place tile ⟨t.count tile, hfree⟩ r) := by
  have hcounts : t.counts.set tile.val (t.count tile + 1) tile.isLt =
      t.counts.setIfInBounds tile.val (t.count tile + 1) := by
    apply Vector.ext
    intro i hi
    rw [Vector.getElem_set, Vector.getElem_setIfInBounds hi]
  rw [addReaction, tileIndex_of_lt h]
  show (if free : t.count tile < 8 then _ else _) = _
  rw [dif_pos hfree, Reaction.data, copyRegion_block, place, ← hcounts]
  rfl

end Register

/-- Everything that registering a reaction can do. -/
theorem addReaction_cases (t : RuleTable) (id : UInt32) (r : Reaction) :
    (32 ≤ id.toNat ∧ t.addReaction id r = .error (.rangeViolation (.tileType id))) ∨
      (∃ tile : Fin 32, id.toNat = tile.val ∧ 8 ≤ t.count tile ∧
        t.addReaction id r = .error (.capacityExceeded (.reactions id))) ∨
      ∃ (tile : Fin 32) (hfree : t.count tile < 8), id.toNat = tile.val ∧
        t.addReaction id r = .ok (t.place tile ⟨t.count tile, hfree⟩ r) := by
  rcases exists_tile id with hge | ⟨tile, htile⟩
  · exact Or.inl ⟨hge, addReaction_of_ge hge⟩
  · right
    by_cases hfree : t.count tile < 8
    · exact Or.inr ⟨tile, hfree, htile, addReaction_of_free htile hfree⟩
    · have hfull : 8 ≤ t.count tile := by omega
      exact Or.inl ⟨tile, htile, hfull, addReaction_of_full htile hfull⟩

theorem exists_place {t next : RuleTable} {id : UInt32} {r : Reaction}
    (h : t.addReaction id r = .ok next) :
    ∃ (tile : Fin 32) (hfree : t.count tile < 8), id.toNat = tile.val ∧
      next = t.place tile ⟨t.count tile, hfree⟩ r := by
  rcases addReaction_cases t id r with ⟨_, hfail⟩ | ⟨_, _, _, hfail⟩ | ⟨tile, hfree, hid, htaken⟩
  · rw [hfail] at h
    cases h
  · rw [hfail] at h
    cases h
  · rw [htaken] at h
    cases h
    exact ⟨tile, hfree, hid, rfl⟩

/-- A slot that is in use keeps its block, and stays in use. -/
theorem addReaction_keeps {t next : RuleTable} {id : UInt32} {r : Reaction}
    (h : t.addReaction id r = .ok next) {tile : Fin 32} {slot : Fin 8}
    (hused : slot.val < t.count tile) :
    slot.val < next.count tile ∧ blockOf next.words tile slot = blockOf t.words tile slot := by
  obtain ⟨tile', hfree, _, rfl⟩ := exists_place h
  constructor
  · rw [count_place]
    split
    · rename_i heq
      rw [heq] at hused
      exact Nat.lt_succ_of_lt hused
    · exact hused
  · -- The reaction went into the slot behind those in use.
    have hother : ¬ (tile = tile' ∧ slot = ⟨t.count tile', hfree⟩) := by
      rintro ⟨rfl, hslot⟩
      exact absurd (congrArg Fin.val hslot) (Nat.ne_of_lt hused)
    exact blockOf_placeBlock_of_ne t.words hother r.block

end RuleTable
end TileRules
