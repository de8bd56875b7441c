import TileRules.Grid

/-!
# Grid — what a block leaves behind in a grid

A block is written word by word. No two of its words go to one cell, so the order of the writes does
not count, and the cells that no word goes to stay as they are.

- `cellOf` is the cell of a word, and `cellOf_inj` tells words apart by their cells;
- `getElem_writeCells_of_hit` and `getElem_writeCells_of_miss` read any cell after the writes;
- `RegionFits` says when a block has a place, and `copyRegion_of_fits` that it is written then.
-/

namespace TileRules

/-- The cell of word `k` of a block with its upper left corner at (`x`, `y`). -/
def cellOf (targetWidth x y width k : Nat) : Nat :=
  (y + k / width) * targetWidth + x + k % width

section

variable {targetWidth x y width : Nat}

theorem cellOf_div (hwidth : 0 < width) (hinside : x + width ≤ targetWidth) (k : Nat) :
    cellOf targetWidth x y width k / targetWidth = y + k / width := by
  have hcolumn : x + k % width < targetWidth := by
    have h := Nat.mod_lt k hwidth
    omega
  rw [cellOf, Nat.add_assoc, Nat.mul_comm, Nat.mul_add_div (by omega),
    Nat.div_eq_of_lt hcolumn, Nat.add_zero]

theorem cellOf_mod (hwidth : 0 < width) (hinside : x + width ≤ targetWidth) (k : Nat) :
    cellOf targetWidth x y width k % targetWidth = x + k % width := by
  have hcolumn : x + k % width < targetWidth := by
    have h := Nat.mod_lt k hwidth
    omega
  rw [cellOf, Nat.add_assoc, Nat.mul_add_mod', Nat.mod_eq_of_lt hcolumn]

/-- A block no wider than the grid has its words in different cells. -/
theorem cellOf_inj (hwidth : 0 < width) (hinside : x + width ≤ targetWidth) {k l : Nat}
    (h : cellOf targetWidth x y width k = cellOf targetWidth x y width l) : k = l := by
  have hrow : k / width = l / width := by
    have hdiv := congrArg (· / targetWidth) h
    simp only [cellOf_div hwidth hinside] at hdiv
    omega
  have hcolumn : k % width = l % width := by
    have hmod := congrArg (· % targetWidth) h
    simp only [cellOf_mod hwidth hinside] at hmod
    omega
  calc k = width * (k / width) + k % width := (Nat.div_add_mod k width).symm
    _ = width * (l / width) + l % width := by rw [hrow, hcolumn]
    _ = l := Nat.div_add_mod l width

end

/-! ## Folds of single writes -/

section Fold

variable {n m : Nat} (place : Fin m → Nat) (word : Fin m → UInt32)

theorem getElem_foldl_set_of_miss {i : Nat} (hi : i < n) (ks : List (Fin m))
    (h : ∀ k ∈ ks, place k ≠ i) (cells : Vector UInt32 n) :
    (ks.foldl (fun cells k => cells.setIfInBounds (place k) (word k)) cells)[i] = cells[i] := by
  induction ks generalizing cells with
  | nil =>
      rfl
  | cons k ks ih =>
      rw [List.foldl_cons, ih fun l hl => h l (List.mem_cons_of_mem _ hl),
        Vector.getElem_setIfInBounds_ne hi (h k List.mem_cons_self)]

/-- A cell that holds its word keeps it, because the only later write there writes the same word. -/
theorem getElem_foldl_set_of_held (hinj : ∀ k l, place k = place l → k = l) {k : Fin m}
    (hk : place k < n) (ks : List (Fin m)) (cells : Vector UInt32 n)
    (h : k ∈ ks ∨ cells[place k] = word k) :
    (ks.foldl (fun cells k => cells.setIfInBounds (place k) (word k)) cells)[place k] = word k := by
  induction ks generalizing cells with
  | nil =>
      exact h.resolve_left List.not_mem_nil
  | cons l ks ih =>
      rw [List.foldl_cons]
      apply ih
      -- Either this write puts the word there, or it is about another cell.
      by_cases hl : k = l
      · right
        rw [← hl, Vector.getElem_setIfInBounds_self]
      · rcases h with hmem | hheld
        · exact Or.inl ((List.mem_cons.1 hmem).resolve_left hl)
        · right
          have hne : place l ≠ place k := fun heq => hl (hinj k l heq.symm)
          rw [Vector.getElem_setIfInBounds_ne hk hne]
          exact hheld

end Fold

/-! ## Blocks -/

section Blocks

variable {n targetWidth x y width : Nat} (target : Vector UInt32 n) (data : Array UInt32)

theorem getElem_writeCells_of_hit (hwidth : 0 < width) (hinside : x + width ≤ targetWidth) {k : Nat}
    (hk : k < data.size) (hcell : cellOf targetWidth x y width k < n) :
    (writeCells target targetWidth x y width data)[cellOf targetWidth x y width k] = data[k] := by
  have hinj : ∀ i j : Fin data.size,
      cellOf targetWidth x y width i.val = cellOf targetWidth x y width j.val → i = j :=
    fun _ _ h => Fin.ext (cellOf_inj hwidth hinside h)
  exact getElem_foldl_set_of_held (fun i : Fin data.size => cellOf targetWidth x y width i.val)
    (fun i => data[i]) hinj (k := ⟨k, hk⟩) hcell (List.finRange data.size) target
    (Or.inl (List.mem_finRange _))

theorem getElem_writeCells_of_miss {i : Nat} (hi : i < n)
    (h : ∀ k < data.size, cellOf targetWidth x y width k ≠ i) :
    (writeCells target targetWidth x y width data)[i] = target[i] :=
  getElem_foldl_set_of_miss (fun k : Fin data.size => cellOf targetWidth x y width k.val)
    (fun k => data[k]) hi (List.finRange data.size) (fun k _ => h k.val k.isLt) target

end Blocks

/-! ## Places -/

/-- A block of `size` words, in rows of `width` words, has a place at (`x`, `y`) of a grid of `n`
cells. -/
structure RegionFits (n targetWidth targetHeight size x y width : Nat) : Prop where
  width_pos : 0 < width
  width_dvd : width ∣ size
  columns_le : x + width ≤ targetWidth
  rows_le : y + size / width ≤ targetHeight
  cells_eq : n = targetWidth * targetHeight

section Places

variable {n targetWidth targetHeight size x y width : Nat}

/-- The bounds in the order in which they are checked. -/
theorem regionFits_iff :
    RegionFits n targetWidth targetHeight size x y width ↔
      ¬ (width = 0 ∨ size % width ≠ 0) ∧
        ¬ (x + width > targetWidth ∨ y + size / width > targetHeight) ∧
          ¬ n ≠ targetWidth * targetHeight := by
  constructor
  · rintro ⟨hwidth, hdvd, hcolumns, hrows, hcells⟩
    have hmod := Nat.mod_eq_zero_of_dvd hdvd
    exact ⟨by omega, by omega, not_not_intro hcells⟩
  · rintro ⟨hragged, hinside, hcells⟩
    have hmod : size % width = 0 := by omega
    exact ⟨by omega, Nat.dvd_of_mod_eq_zero hmod, by omega, by omega,
      Decidable.not_not.1 hcells⟩

theorem copyRegion_of_fits {data : Array UInt32}
    (h : RegionFits n targetWidth targetHeight data.size x y width) (target : Vector UInt32 n) :
    copyRegion target targetWidth targetHeight data x y width =
      .ok (writeCells target targetWidth x y width data) := by
  rcases regionFits_iff.1 h with ⟨hragged, hinside, hcells⟩
  simp only [copyRegion, if_neg hragged, if_neg hinside, if_neg hcells]

end Places

end TileRules
