import TileRules.Proofs.Registration

/-!
# Import — which words and counts make a table

A table is rebuilt from a list of words, with counts that were recorded or with counts that are read
off the blocks. Recorded counts are accepted exactly if nothing but no-op blocks stands behind them,
and the counts that are read off the blocks are the least of these.

- `RuleTable.Covers` says that a count goes with the blocks of a tile type, and `usedSlots_le_iff`
  that the slots in use are the least such count;
- `RuleTable.Covered` is the same for a whole table: `fromWordsWithCounts_eq_ok_iff` says that these
  are the tables that words and counts can give, and registrations keep to them
  (`Covered.attempts`), whatever `Source` they start from;
- `fromWordsWithCounts_eq_error` finds the tile type that decides the error;
- `import_accepts_covering_counts` puts them together.
-/

namespace TileRules

open Layout

/-! ## Checks one after another -/

section

variable {α ε : Type} {check : α → Except ε Unit} {list : List α}

theorem forM_cons (a : α) : (a :: list).forM check = check a >>= fun _ => list.forM check :=
  rfl

theorem forM_eq_ok_iff : list.forM check = .ok () ↔ ∀ a ∈ list, check a = .ok () := by
  induction list with
  | nil =>
      exact iff_of_true rfl (fun _ h => absurd h List.not_mem_nil)
  | cons a list ih =>
      rw [forM_cons, bind_eq_ok, List.forall_mem_cons]
      constructor
      · rintro ⟨_, hfirst, hrest⟩
        exact ⟨hfirst, ih.1 hrest⟩
      · rintro ⟨hfirst, hrest⟩
        exact ⟨(), hfirst, ih.2 hrest⟩

/-- The first check that fails decides the error. -/
theorem exists_of_forM_eq_error {e : ε} (h : list.forM check = .error e) :
    ∃ before a after, list = before ++ a :: after ∧ (∀ b ∈ before, check b = .ok ()) ∧
      check a = .error e := by
  induction list with
  | nil =>
      cases h
  | cons a list ih =>
      rw [forM_cons] at h
      cases hfirst : check a with
      | error e' =>
          rw [hfirst] at h
          cases h
          exact ⟨[], a, list, rfl, fun _ hb => absurd hb List.not_mem_nil, hfirst⟩
      | ok u =>
          rw [bind_of_ok hfirst] at h
          obtain ⟨before, b, after, rfl, hbefore, hb⟩ := ih h
          refine ⟨a :: before, b, after, rfl, ?_, hb⟩
          exact List.forall_mem_cons.2 ⟨hfirst, hbefore⟩

end

namespace RuleTable

/-! ## Slots in use -/

section Slots

variable {words : Vector UInt32 16384} {tile : Fin 32} {count : Nat}

theorem isNoop_iff {slot : Fin 8} :
    isNoop words tile slot = true ↔ blockOf words tile slot = noopBlock (UInt32.ofNat tile.val) :=
  beq_iff_eq

theorem usedBelow_le_iff {n : Nat} (hn : n ≤ 8) :
    usedBelow words tile n hn ≤ count ↔
      ∀ slot : Fin 8, slot.val < n → count ≤ slot.val → isNoop words tile slot = true := by
  induction n with
  | zero =>
      exact iff_of_true (Nat.zero_le count) (fun _ h => absurd h (Nat.not_lt_zero _))
  | succ n ih =>
      rw [usedBelow]
      by_cases hnoop : isNoop words tile ⟨n, hn⟩ = true
      · rw [if_pos hnoop, ih (Nat.le_of_succ_le hn)]
        constructor
        · intro h slot hslot hcount
          rcases Nat.lt_succ_iff_lt_or_eq.1 hslot with hlt | heq
          · exact h slot hlt hcount
          · obtain rfl : slot = ⟨n, hn⟩ := Fin.ext heq
            exact hnoop
        · intro h slot hslot hcount
          exact h slot (Nat.lt_succ_of_lt hslot) hcount
      · -- The slot is in use, so a count of at most `n` leaves it outside.
        rw [if_neg hnoop]
        constructor
        · intro h slot hslot hcount
          omega
        · intro h
          rcases Nat.lt_or_ge n count with hlt | hge
          · exact hlt
          · exact absurd (h ⟨n, hn⟩ (Nat.lt_succ_self n) hge) hnoop

/-- The slots in use are the least count with nothing but no-op blocks behind it. -/
theorem usedSlots_le_iff :
    usedSlots words tile ≤ count ↔
      ∀ slot : Fin 8, count ≤ slot.val →
        blockOf words tile slot = noopBlock (UInt32.ofNat tile.val) := by
  rw [usedSlots, usedBelow_le_iff]
  constructor
  · intro h slot hcount
    exact isNoop_iff.1 (h slot slot.isLt hcount)
  · intro h slot _ hcount
    exact isNoop_iff.2 (h slot hcount)

theorem usedSlots_le_eight : usedSlots words tile ≤ 8 := by
  rw [usedSlots_le_iff]
  intro slot hslot
  exact absurd slot.isLt (Nat.not_lt.2 hslot)

/-- A count goes with the blocks of a tile type: the table has room for it, and nothing but no-op
blocks stands behind it. -/
def Covers (words : Vector UInt32 16384) (tile : Fin 32) (count : Nat) : Prop :=
  count ≤ 8 ∧ ∀ slot : Fin 8, count ≤ slot.val →
    blockOf words tile slot = noopBlock (UInt32.ofNat tile.val)

instance decidableCovers (words : Vector UInt32 16384) (tile : Fin 32) (count : Nat) :
    Decidable (Covers words tile count) :=
  inferInstanceAs (Decidable (_ ∧ _))

theorem covers_iff : Covers words tile count ↔ count ≤ 8 ∧ usedSlots words tile ≤ count := by
  rw [Covers, usedSlots_le_iff]

theorem covers_usedSlots : Covers words tile (usedSlots words tile) :=
  covers_iff.2 ⟨usedSlots_le_eight, Nat.le_refl _⟩

/-! ## One count -/

/-- Why a count that does not go with the blocks of a tile type is refused. -/
def countFault (words : Vector UInt32 16384) (tile : Fin 32) (count : Nat) : RuleError :=
  if 8 < count then
    .capacityExceeded (.recordedCount tile.val count)
  else
    .rangeViolation (.slotInUse tile.val count (usedSlots words tile - 1))

theorem checkCount_of_covers (h : Covers words tile count) :
    checkCount words tile count = .ok () := by
  obtain ⟨hle, hused⟩ := covers_iff.1 h
  rw [checkCount, if_neg (Nat.not_lt.2 hle), if_neg (Nat.not_lt.2 hused)]

theorem checkCount_of_not_covers (h : ¬ Covers words tile count) :
    checkCount words tile count = .error (countFault words tile count) := by
  rw [checkCount, countFault]
  by_cases hle : 8 < count
  · rw [if_pos hle, if_pos hle]
  · have hused : count < usedSlots words tile := by
      rw [covers_iff] at h
      omega
    rw [if_neg hle, if_neg hle, if_pos hused]

theorem checkCount_eq_ok_iff : checkCount words tile count = .ok () ↔ Covers words tile count := by
  constructor
  · intro h
    refine Decidable.not_not.1 fun hfail => ?_
    rw [checkCount_of_not_covers hfail] at h
    cases h
  · exact checkCount_of_covers

end Slots

/-! ## Whole tables -/

/-- Nothing but no-op blocks stands behind the counts of the table. -/
def Covered (t : RuleTable) : Prop :=
  ∀ tile, Covers t.words tile (t.count tile)

theorem cellsOf_toArray (cells : Vector UInt32 16384) : cellsOf cells.toArray = .ok cells := by
  rw [cellsOf, dif_pos cells.size_toArray]

theorem cellsOf_eq_ok_iff {words : Array UInt32} {cells : Vector UInt32 16384} :
    cellsOf words = .ok cells ↔ cells.toArray = words := by
  constructor
  · intro h
    rw [cellsOf] at h
    split at h
    · cases h
      rfl
    · cases h
  · rintro rfl
    exact cellsOf_toArray cells

theorem fromWordsWithCounts_of_length_ne {words : Array UInt32} {counts : List Nat}
    (h : counts.length ≠ 32) :
    fromWordsWithCounts words counts =
      .error (.rangeViolation (.countList counts.length tileTypes)) := by
  rw [fromWordsWithCounts, dif_neg h]

theorem fromWordsWithCounts_of_size_ne {words : Array UInt32} {counts : List Nat}
    (hcounts : counts.length = 32) (h : words.size ≠ 16384) :
    fromWordsWithCounts words counts =
      .error (.rangeViolation (.wordList words.size tableCells)) := by
  rw [fromWordsWithCounts, dif_pos hcounts, cellsOf, dif_neg h]
  rfl

/-- With the right lengths, only the counts are checked. -/
theorem fromWordsWithCounts_toList (cells : Vector UInt32 16384) (recorded : Vector Nat 32) :
    fromWordsWithCounts cells.toArray recorded.toList =
      ((List.finRange 32).forM fun tile => checkCount cells tile (recorded.get tile)) >>=
        fun _ => .ok { words := cells, counts := recorded } := by
  rw [fromWordsWithCounts, dif_pos recorded.length_toList, bind_of_ok (cellsOf_toArray cells)]
  rfl

theorem fromWordsWithCounts_eq_ok_iff {words : Array UInt32} {counts : List Nat} {t : RuleTable} :
    fromWordsWithCounts words counts = .ok t ↔
      t.words.toArray = words ∧ t.counts.toList = counts ∧ t.Covered := by
  by_cases hcounts : counts.length = 32
  · by_cases hwords : words.size = 16384
    · obtain ⟨cells, rfl⟩ : ∃ cells : Vector UInt32 16384, cells.toArray = words :=
        ⟨⟨words, hwords⟩, rfl⟩
      obtain ⟨recorded, rfl⟩ : ∃ recorded : Vector Nat 32, recorded.toList = counts :=
        ⟨⟨counts.toArray, hcounts⟩, rfl⟩
      rw [fromWordsWithCounts_toList, bind_eq_ok]
      constructor
      · rintro ⟨_, hchecks, htable⟩
        cases htable
        refine ⟨rfl, rfl, fun tile => ?_⟩
        exact checkCount_eq_ok_iff.1 (forM_eq_ok_iff.1 hchecks tile (List.mem_finRange tile))
      · rintro ⟨hcells, hlist, hcovered⟩
        obtain rfl := Vector.toArray_inj.1 hcells
        obtain rfl := Vector.toList_inj.1 hlist
        exact ⟨(), forM_eq_ok_iff.2 fun tile _ => checkCount_of_covers (hcovered tile), rfl⟩
    · rw [fromWordsWithCounts_of_size_ne hcounts hwords]
      refine iff_of_false (fun h => by cases h) ?_
      rintro ⟨rfl, _, _⟩
      exact hwords t.words.size_toArray
  · rw [fromWordsWithCounts_of_length_ne hcounts]
    refine iff_of_false (fun h => by cases h) ?_
    rintro ⟨_, rfl, _⟩
    exact hcounts t.counts.length_toList

/-- With the right lengths, the first tile type whose count does not go with its blocks decides the
error. -/
theorem fromWordsWithCounts_eq_error {cells : Vector UInt32 16384} {recorded : Vector Nat 32}
    {e : RuleError} (h : fromWordsWithCounts cells.toArray recorded.toList = .error e) :
    ∃ tile, (∀ earlier < tile, Covers cells earlier (recorded.get earlier)) ∧
      ¬ Covers cells tile (recorded.get tile) ∧ e = countFault cells tile (recorded.get tile) := by
  rw [fromWordsWithCounts_toList] at h
  cases hchecks : (List.finRange 32).forM fun tile => checkCount cells tile (recorded.get tile) with
  | ok u =>
      rw [bind_of_ok hchecks] at h
      cases h
  | error e' =>
      rw [hchecks] at h
      cases h
      obtain ⟨before, tile, after, hlist, hbefore, hfail⟩ := exists_of_forM_eq_error hchecks
      have hnot : ¬ Covers cells tile (recorded.get tile) := by
        intro hcovers
        rw [checkCount_of_covers hcovers] at hfail
        cases hfail
      refine ⟨tile, ?_, hnot, ?_⟩
      · -- The tile types are checked in order, so all smaller ones stand before the one that fails.
        intro earlier hlt
        have hsorted := List.pairwise_lt_finRange 32
        have hmem := List.mem_finRange earlier
        rw [hlist] at hsorted hmem
        have hlater := (List.pairwise_append.1 hsorted).2.1
        rcases List.mem_append.1 hmem with hin | hin
        · exact checkCount_eq_ok_iff.1 (hbefore earlier hin)
        · have hle : tile ≤ earlier := by
            rcases List.mem_cons.1 hin with rfl | hafter
            · exact Nat.le_refl _
            · exact Nat.le_of_lt (List.rel_of_pairwise_cons hlater hafter)
          exact absurd hlt (Nat.not_lt.2 hle)
      · rw [checkCount_of_not_covers hnot] at hfail
        cases hfail
        rfl

/-- A single tile type whose count does not go with its blocks decides the error, wherever it is. -/
theorem fromWordsWithCounts_of_not_covers {cells : Vector UInt32 16384} {recorded : Vector Nat 32}
    {tile : Fin 32} (h : ¬ Covers cells tile (recorded.get tile))
    (hothers : ∀ other, other ≠ tile → Covers cells other (recorded.get other)) :
    fromWordsWithCounts cells.toArray recorded.toList =
      .error (countFault cells tile (recorded.get tile)) := by
  cases hread : fromWordsWithCounts cells.toArray recorded.toList with
  | ok t =>
      obtain ⟨hwords, hcounts, hcovered⟩ := fromWordsWithCounts_eq_ok_iff.1 hread
      rw [← Vector.toArray_inj.1 hwords, ← Vector.toList_inj.1 hcounts] at h
      exact absurd (hcovered tile) h
  | error e =>
      obtain ⟨found, -, hfail, rfl⟩ := fromWordsWithCounts_eq_error hread
      obtain rfl : found = tile := Decidable.not_not.1 fun hne => hfail (hothers found hne)
      rfl

/-- Without recorded counts, the slots in use are counted. -/
theorem fromWords_toArray (cells : Vector UInt32 16384) :
    fromWords cells.toArray = .ok { words := cells, counts := Vector.ofFn (usedSlots cells) } := by
  rw [fromWords, bind_of_ok (cellsOf_toArray cells)]
  rfl

theorem fromWords_eq_ok_iff {words : Array UInt32} {t : RuleTable} :
    fromWords words = .ok t ↔
      t.words.toArray = words ∧ ∀ tile, t.count tile = usedSlots t.words tile := by
  have hcount : ∀ (cells : Vector UInt32 16384) tile,
      count { words := cells, counts := Vector.ofFn (usedSlots cells) } tile =
        usedSlots cells tile :=
    fun cells tile => Vector.getElem_ofFn tile.isLt
  constructor
  · intro h
    rw [fromWords] at h
    obtain ⟨cells, hcells, htable⟩ := bind_eq_ok.1 h
    cases htable
    exact ⟨cellsOf_eq_ok_iff.1 hcells, hcount cells⟩
  · rintro ⟨rfl, hused⟩
    have hcounts : Vector.ofFn (usedSlots t.words) = t.counts :=
      (counts_ext fun tile => (hused tile).trans (hcount t.words tile).symm).symm
    rw [fromWords_toArray, hcounts]

/-! ## Runs of registrations -/

theorem covered_empty : empty.Covered := by
  intro tile
  rw [count_empty]
  exact ⟨Nat.zero_le 8, fun slot _ => blockOf_empty tile slot⟩

theorem Covered.addReaction {t next : RuleTable} (h : t.Covered) {id : UInt32} {r : Reaction}
    (hstep : t.addReaction id r = .ok next) : next.Covered := by
  obtain ⟨tile', hfree, _, rfl⟩ := exists_place hstep
  intro tile
  obtain ⟨hle, hbehind⟩ := h tile
  rw [count_place]
  by_cases htile : tile = tile'
  · subst htile
    rw [if_pos rfl]
    refine ⟨hfree, fun slot hslot => ?_⟩
    -- The reaction stands in the slot before those that are behind the new count.
    have hother : ¬ (tile = tile ∧ slot = ⟨t.count tile, hfree⟩) := by
      rintro ⟨_, rfl⟩
      exact absurd hslot (Nat.not_succ_le_self _)
    rw [RuleTable.place, blockOf_placeBlock_of_ne t.words hother]
    exact hbehind slot (Nat.le_of_succ_le hslot)
  · rw [if_neg htile]
    refine ⟨hle, fun slot hslot => ?_⟩
    rw [RuleTable.place, blockOf_placeBlock_of_ne t.words (fun hand => htile hand.1)]
    exact hbehind slot hslot

/-- The slots behind the reactions of a tile type are unused. -/
theorem Represents.covers {t : RuleTable} {lists : UInt32 → List Reaction} (h : Represents t lists)
    {tile : Fin 32} {count : Nat} (hcount : (lists (UInt32.ofNat tile.val)).length ≤ count)
    (hroom : count ≤ 8) : Covers t.words tile count := by
  refine ⟨hroom, fun slot hslot => ?_⟩
  rw [h.blocks slot (toNat_ofNat_tile tile), inSlot_of_ge _ _ (Nat.le_trans hcount hslot)]

theorem Covered.attempts {t : RuleTable} (h : t.Covered) (run : List (UInt32 × Reaction)) :
    (attempts register t run).Covered :=
  attempts_invariant h (fun _ _ _ hcovered hstep => hcovered.addReaction hstep) run

/-- Where a table starts from before reactions are registered in it. -/
inductive Source
  | empty
  | imported (words : Array UInt32)
  | importedWithCounts (words : Array UInt32) (counts : List Nat)

/-- The table of a source, if its words and counts are accepted. -/
def Source.table : Source → Except RuleError RuleTable
  | .empty => .ok RuleTable.empty
  | .imported words => fromWords words
  | .importedWithCounts words counts => fromWordsWithCounts words counts

theorem Source.covered {source : Source} {t : RuleTable} (h : source.table = .ok t) :
    t.Covered := by
  cases source with
  | empty =>
      rw [← Except.ok.inj h]
      exact covered_empty
  | imported words =>
      obtain ⟨_, hused⟩ := fromWords_eq_ok_iff.1 h
      intro tile
      rw [hused tile]
      exact covers_usedSlots
  | importedWithCounts words counts =>
      exact (fromWordsWithCounts_eq_ok_iff.1 h).2.2

theorem Covered.count_le {t : RuleTable} (h : t.Covered) {count : Nat}
    (hcount : count ∈ t.counts.toList) : count ≤ 8 := by
  obtain ⟨tile, htile, rfl⟩ := List.mem_iff_getElem.1 hcount
  rw [Vector.length_toList] at htile
  rw [Vector.getElem_toList]
  exact (h ⟨tile, htile⟩).1

theorem Covered.totalReactions_le {t : RuleTable} (h : t.Covered) : t.totalReactions ≤ 256 := by
  have hlength : t.counts.toList.length = 32 := Vector.length_toList
  have hne : t.counts.toList ≠ [] := List.ne_nil_of_length_pos (by omega)
  have hmost : t.counts.toList.max hne ≤ 8 := h.count_le (List.max_mem hne)
  calc t.totalReactions = t.counts.toList.sum := List.sum_eq_foldr.symm
    _ ≤ t.counts.toList.max hne * t.counts.toList.length := List.sum_le_max_mul_length_nat hne
    _ ≤ 8 * 32 := Nat.mul_le_mul hmost (Nat.le_of_eq hlength)

/-! ## Accepted input -/

/-- Recorded counts are accepted exactly if they cover the blocks of every tile type, and counts
that are read off the blocks are the least of these.

The first four parts are about recorded counts: when they are accepted, what comes of it, which tile
type decides the error, and that wrong lengths are refused. The last two are about counts that are
read off the blocks. -/
theorem import_accepts_covering_counts (words : Array UInt32) (counts : List Nat) :
    ((∃ t, fromWordsWithCounts words counts = .ok t) ↔
      ∃ (cells : Vector UInt32 16384) (recorded : Vector Nat 32),
        cells.toArray = words ∧ recorded.toList = counts ∧
          ∀ tile, recorded.get tile ≤ 8 ∧ ∀ slot : Fin 8, recorded.get tile ≤ slot.val →
            blockOf cells tile slot = noopBlock (UInt32.ofNat tile.val)) ∧
      (∀ t, fromWordsWithCounts words counts = .ok t →
        t.words.toArray = words ∧ t.counts.toList = counts) ∧
      (∀ (cells : Vector UInt32 16384) (recorded : Vector Nat 32) (e : RuleError),
        fromWordsWithCounts cells.toArray recorded.toList = .error e →
          ∃ tile, (∀ earlier < tile, Covers cells earlier (recorded.get earlier)) ∧
            ¬ Covers cells tile (recorded.get tile) ∧
            e = if 8 < recorded.get tile then
                .capacityExceeded (.recordedCount tile.val (recorded.get tile))
              else
                .rangeViolation
                  (.slotInUse tile.val (recorded.get tile) (usedSlots cells tile - 1))) ∧
      (words.size ≠ 16384 ∨ counts.length ≠ 32 →
        ∃ fault, fromWordsWithCounts words counts = .error (.rangeViolation fault)) ∧
      ((∃ t, fromWords words = .ok t) ↔ words.size = 16384) ∧
      ∀ t, fromWords words = .ok t →
        fromWordsWithCounts words t.counts.toList = .ok t ∧
          ∀ u, fromWordsWithCounts words counts = .ok u → ∀ tile, t.count tile ≤ u.count tile := by
  refine ⟨?_, ?_, fun cells recorded e => fromWordsWithCounts_eq_error, ?_, ?_, ?_⟩
  · constructor
    · rintro ⟨t, ht⟩
      obtain ⟨hwords, hcounts, hcovered⟩ := fromWordsWithCounts_eq_ok_iff.1 ht
      exact ⟨t.words, t.counts, hwords, hcounts, hcovered⟩
    · rintro ⟨cells, recorded, hwords, hcounts, hcovered⟩
      exact ⟨⟨cells, recorded⟩, fromWordsWithCounts_eq_ok_iff.2 ⟨hwords, hcounts, hcovered⟩⟩
  · intro t ht
    obtain ⟨hwords, hcounts, _⟩ := fromWordsWithCounts_eq_ok_iff.1 ht
    exact ⟨hwords, hcounts⟩
  · intro hlengths
    by_cases hcounts : counts.length = 32
    · have hwords : words.size ≠ 16384 := hlengths.resolve_right (fun h => h hcounts)
      exact ⟨_, fromWordsWithCounts_of_size_ne hcounts hwords⟩
    · exact ⟨_, fromWordsWithCounts_of_length_ne hcounts⟩
  · constructor
    · rintro ⟨t, ht⟩
      obtain ⟨rfl, _⟩ := fromWords_eq_ok_iff.1 ht
      exact t.words.size_toArray
    · intro hsize
      refine ⟨{ words := ⟨words, hsize⟩, counts := Vector.ofFn (usedSlots ⟨words, hsize⟩) }, ?_⟩
      exact fromWords_eq_ok_iff.2 ⟨rfl, fun tile => Vector.getElem_ofFn tile.isLt⟩
  · intro t ht
    obtain ⟨rfl, hused⟩ := fromWords_eq_ok_iff.1 ht
    constructor
    · refine fromWordsWithCounts_eq_ok_iff.2 ⟨rfl, rfl, fun tile => ?_⟩
      rw [hused]
      exact covers_usedSlots
    · -- A table with the same words has the same slots in use, and its counts cover them.
      intro u hu tile
      obtain ⟨hwords, _, hcovered⟩ := fromWordsWithCounts_eq_ok_iff.1 hu
      obtain ⟨_, hle⟩ := covers_iff.1 (hcovered tile)
      rw [hused, ← Vector.toArray_inj.1 hwords]
      exact hle

end RuleTable
end TileRules
