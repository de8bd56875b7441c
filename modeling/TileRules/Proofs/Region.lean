import TileRules.Proofs.Grid
import TileRules.Proofs.InPlace

/-!
# Region — a block is copied whole or not at all

A block is copied into a grid row by row, every row over a slice of the cells. All bounds are
checked before the first row is written: a block that has no place in the grid changes nothing, and
one that has a place reaches no cell outside of it. Coordinates are natural numbers, so no sum and
no product of them wraps.

- `copyInPlace` copies slice by slice, in place;
- `HoldsRows` says what is in the cells when some rows of a block are copied, `HoldsRows.concat`
  copies one more row, and `HoldsRows.unique` leaves no choice for the cells;
- `run_copyInPlace_of_fits` and `refused_of_not_fits` are all that copying in place can do, and
  `copyInPlace_does` compares it with `copyRegion`;
- `block_is_copied_whole_or_not_at_all` says which cells it changes.
-/

namespace TileRules

variable {n : Nat}

/-! ## Copying in place -/

/-- The cells with a row over the slice that starts at `start`. -/
def overwrite (cells : Vector UInt32 n) (start : Nat) (row : Array UInt32) : Vector UInt32 n :=
  Vector.ofFn fun i =>
    if h : start ≤ i.val ∧ i.val - start < row.size then row[i.val - start] else cells.get i

/-- Writes a row over the `width` cells from `start` on. -/
def putRow (start width : Nat) (row : Array UInt32) : InPlace (Vector UInt32 n) Unit :=
  if start + width ≤ n ∧ row.size = width then
    modify fun cells => overwrite cells start row
  else
    throw .outOfBounds

/-- Copies the first `rows` rows of a block, each over its own slice. -/
def putRows (targetWidth : Nat) (data : Array UInt32) (x y width rows : Nat) :
    InPlace (Vector UInt32 n) Unit :=
  forM (List.range rows) fun row =>
    putRow ((y + row) * targetWidth + x) width (data.extract (row * width) ((row + 1) * width))

/-- Checks the bounds of a block, and then copies its rows. -/
def copyInPlace (targetWidth targetHeight : Nat) (data : Array UInt32) (x y width : Nat) :
    InPlace (Vector UInt32 n) Unit :=
  let height := data.size / width
  if width = 0 ∨ data.size % width ≠ 0 then
    throw (.refused (.rangeViolation (.raggedBlock data.size width)))
  else if x + width > targetWidth ∨ y + height > targetHeight then
    throw (.refused (.rangeViolation
      (.outsideTable width height x y targetWidth targetHeight)))
  else if n ≠ targetWidth * targetHeight then
    throw (.refused (.rangeViolation (.tableSize n (targetWidth * targetHeight))))
  else
    putRows targetWidth data x y width height

theorem getElem_overwrite_of_mem (cells : Vector UInt32 n) {start k : Nat} {row : Array UInt32}
    (hk : k < row.size) (hcell : start + k < n) :
    (overwrite cells start row)[start + k] = row[k] := by
  have hcolumn : start + k - start = k := Nat.add_sub_cancel_left start k
  simp [overwrite, hcolumn, hk]

theorem getElem_overwrite_of_not_mem (cells : Vector UInt32 n) {start i : Nat}
    {row : Array UInt32} (hi : i < n) (h : i < start ∨ start + row.size ≤ i) :
    (overwrite cells start row)[i] = cells[i] := by
  have hslice : ¬ (start ≤ i ∧ i - start < row.size) := by omega
  rw [overwrite, Vector.getElem_ofFn, dif_neg hslice]
  rfl

theorem run_putRow {start width : Nat} {row : Array UInt32} (cells : Vector UInt32 n)
    (hslice : start + width ≤ n) (hsize : row.size = width) :
    (putRow start width row).run cells = .ok () (overwrite cells start row) := by
  rw [putRow, if_pos ⟨hslice, hsize⟩]
  rfl

theorem putRows_succ (targetWidth : Nat) (data : Array UInt32) (x y width rows : Nat) :
    (putRows targetWidth data x y width (rows + 1) : InPlace (Vector UInt32 n) Unit) =
      putRows targetWidth data x y width rows >>= fun _ =>
        putRow ((y + rows) * targetWidth + x) width
          (data.extract (rows * width) ((rows + 1) * width)) := by
  rw [putRows, List.range_succ, List.forM_append, ← putRows, List.forM_cons]
  simp

/-! ## Slices -/

namespace RegionFits

variable {targetWidth targetHeight size x y width row later : Nat}

theorem words_le (h : RegionFits n targetWidth targetHeight size x y width)
    (hrow : row < size / width) : row * width + width ≤ size :=
  calc row * width + width = (row + 1) * width := (Nat.add_one_mul row width).symm
    _ ≤ size / width * width := Nat.mul_le_mul_right width hrow
    _ = size := Nat.div_mul_cancel h.width_dvd

/-- The slice of a row ends in the grid. -/
theorem slice_le (h : RegionFits n targetWidth targetHeight size x y width)
    (hrow : row < size / width) : (y + row) * targetWidth + x + width ≤ n := by
  have hrows := h.rows_le
  calc (y + row) * targetWidth + x + width
      = (y + row) * targetWidth + (x + width) := Nat.add_assoc _ x width
    _ ≤ (y + row) * targetWidth + targetWidth := Nat.add_le_add_left h.columns_le _
    _ = (y + row + 1) * targetWidth := (Nat.add_one_mul _ targetWidth).symm
    _ ≤ targetHeight * targetWidth := Nat.mul_le_mul_right targetWidth (by omega)
    _ = n := by rw [h.cells_eq, Nat.mul_comm]

/-- The slice of a row ends before that of any later row. -/
theorem slice_le_start (h : RegionFits n targetWidth targetHeight size x y width)
    (hlater : row < later) :
    (y + row) * targetWidth + x + width ≤ (y + later) * targetWidth + x := by
  have hcolumns := h.columns_le
  have hnext : (y + row + 1) * targetWidth ≤ (y + later) * targetWidth :=
    Nat.mul_le_mul_right targetWidth (by omega)
  rw [Nat.add_one_mul] at hnext
  omega

end RegionFits

theorem size_extract_row {data : Array UInt32} {width row : Nat}
    (h : row * width + width ≤ data.size) :
    (data.extract (row * width) ((row + 1) * width)).size = width := by
  rw [Nat.add_one_mul, Array.size_extract, Nat.min_eq_left h, Nat.add_sub_cancel_left]

/-! ## Rows in the grid -/

/-- The first `rows` rows of a block stand in their cells, and every other cell is as before. -/
structure HoldsRows (before after : Vector UInt32 n) (targetWidth : Nat) (data : Array UInt32)
    (x y width rows : Nat) : Prop where
  inside : ∀ row < rows, ∀ col < width,
    ∃ (hcell : (y + row) * targetWidth + x + col < n) (hword : row * width + col < data.size),
      after[(y + row) * targetWidth + x + col] = data[row * width + col]
  outside : ∀ (i : Nat) (hi : i < n),
    (∀ row < rows, ∀ col < width, (y + row) * targetWidth + x + col ≠ i) → after[i] = before[i]

section Rows

variable {before after after' : Vector UInt32 n} {targetWidth targetHeight : Nat}
  {data : Array UInt32} {x y width rows : Nat}

/-- A cell holds a word of the block or what it held before, so nothing else can be in it. -/
theorem HoldsRows.unique (h : HoldsRows before after targetWidth data x y width rows)
    (h' : HoldsRows before after' targetWidth data x y width rows) : after = after' := by
  apply Vector.ext
  intro i hi
  by_cases hinside : ∃ row < rows, ∃ col < width, (y + row) * targetWidth + x + col = i
  · rcases hinside with ⟨row, hrow, col, hcol, rfl⟩
    rcases h.inside row hrow col hcol with ⟨_, _, hword⟩
    rcases h'.inside row hrow col hcol with ⟨_, _, hword'⟩
    rw [hword, hword']
  · have hother : ∀ row < rows, ∀ col < width, (y + row) * targetWidth + x + col ≠ i :=
      fun row hrow col hcol heq => hinside ⟨row, hrow, col, hcol, heq⟩
    rw [h.outside i hi hother, h'.outside i hi hother]

theorem HoldsRows.zero (before : Vector UInt32 n) (targetWidth : Nat) (data : Array UInt32)
    (x y width : Nat) : HoldsRows before before targetWidth data x y width 0 where
  inside := fun _ hrow => absurd hrow (Nat.not_lt_zero _)
  outside := fun _ _ _ => rfl

/-- The next row goes over its slice, and the rows before it stay what they are. -/
theorem HoldsRows.concat (h : RegionFits n targetWidth targetHeight data.size x y width)
    (hrows : rows < data.size / width)
    (hheld : HoldsRows before after targetWidth data x y width rows) :
    HoldsRows before
      (overwrite after ((y + rows) * targetWidth + x)
        (data.extract (rows * width) ((rows + 1) * width)))
      targetWidth data x y width (rows + 1) := by
  have hwords := h.words_le hrows
  have hsize := size_extract_row hwords
  refine ⟨?_, ?_⟩
  · intro row hrow col hcol
    rcases Nat.lt_succ_iff_lt_or_eq.1 hrow with hearlier | rfl
    · -- The slice lies behind the rows that are already there.
      rcases hheld.inside row hearlier col hcol with ⟨hcell, hword, hread⟩
      have hbehind := h.slice_le_start hearlier
      refine ⟨hcell, hword, ?_⟩
      rw [getElem_overwrite_of_not_mem after hcell (.inl (by omega))]
      exact hread
    · have hslice := h.slice_le hrows
      refine ⟨by omega, by omega, ?_⟩
      rw [getElem_overwrite_of_mem after (by omega) (by omega), Array.getElem_extract]
  · intro i hi hother
    -- A cell of the slice would be one of the row.
    have hslice : i < (y + rows) * targetWidth + x ∨ (y + rows) * targetWidth + x + width ≤ i := by
      rcases Nat.lt_or_ge i ((y + rows) * targetWidth + x) with hleft | hfrom
      · exact .inl hleft
      · rcases Nat.lt_or_ge i ((y + rows) * targetWidth + x + width) with hin | hright
        · have hcol : i - ((y + rows) * targetWidth + x) < width := by omega
          exact absurd (Nat.add_sub_cancel' hfrom) (hother rows (Nat.lt_succ_self rows) _ hcol)
        · exact .inr hright
    rw [getElem_overwrite_of_not_mem after hi (by rw [hsize]; exact hslice)]
    exact hheld.outside i hi fun row hrow => hother row (Nat.lt_succ_of_lt hrow)

/-- Every slice that is written lies in the grid and is as long as its row. -/
theorem exists_run_putRows (h : RegionFits n targetWidth targetHeight data.size x y width)
    (before : Vector UInt32 n) (hrows : rows ≤ data.size / width) :
    ∃ after, (putRows targetWidth data x y width rows).run before = .ok () after ∧
      HoldsRows before after targetWidth data x y width rows := by
  -- `HoldsRows` of the rows that are already copied is the invariant of the loop.
  induction rows with
  | zero =>
      exact ⟨before, rfl, .zero before targetWidth data x y width⟩
  | succ rows ih =>
      rcases ih (Nat.le_of_succ_le hrows) with ⟨after, hrun, hheld⟩
      refine ⟨_, ?_, hheld.concat h hrows⟩
      rw [putRows_succ, EStateM.run_bind, hrun]
      exact run_putRow after (h.slice_le hrows) (size_extract_row (h.words_le hrows))

/-- The cells of the rows are those that the words are written to one by one. -/
theorem holdsRows_writeCells (h : RegionFits n targetWidth targetHeight data.size x y width)
    (target : Vector UInt32 n) :
    HoldsRows target (writeCells target targetWidth x y width data) targetWidth data x y width
      (data.size / width) := by
  refine ⟨?_, ?_⟩
  · intro row hrow col hcol
    have hwords := h.words_le hrow
    have hslice := h.slice_le hrow
    -- The row and the column of a word are its quotient and its remainder by the width.
    have hcell : cellOf targetWidth x y width (row * width + col) =
        (y + row) * targetWidth + x + col := by
      rw [cellOf, Nat.mul_comm row width, Nat.mul_add_div h.width_pos, Nat.mul_add_mod,
        Nat.div_eq_of_lt hcol, Nat.mod_eq_of_lt hcol, Nat.add_zero]
    have hread := getElem_writeCells_of_hit target data h.width_pos h.columns_le (y := y)
      (k := row * width + col) (by omega) (by rw [hcell]; omega)
    simp only [hcell] at hread
    exact ⟨by omega, by omega, hread⟩
  · intro i hi hother
    apply getElem_writeCells_of_miss
    intro k hk
    have hrow : k / width < data.size / width := Nat.div_lt_div_of_lt_of_dvd h.width_dvd hk
    exact hother _ hrow _ (Nat.mod_lt k h.width_pos)

/-! ## Whole blocks -/

/-- A block that has a place is copied in place, and leaves the same cells. -/
theorem run_copyInPlace_of_fits (h : RegionFits n targetWidth targetHeight data.size x y width)
    (target : Vector UInt32 n) :
    (copyInPlace targetWidth targetHeight data x y width).run target =
      .ok () (writeCells target targetWidth x y width data) := by
  rcases regionFits_iff.1 h with ⟨hragged, hinside, hcells⟩
  rcases exists_run_putRows h target (Nat.le_refl _) with ⟨after, hrun, hheld⟩
  simp only [copyInPlace, if_neg hragged, if_neg hinside, if_neg hcells]
  rw [hrun, hheld.unique (holdsRows_writeCells h target)]

/-- Any other block is refused, before anything is written. -/
theorem refused_of_not_fits (h : ¬ RegionFits n targetWidth targetHeight data.size x y width)
    (target : Vector UInt32 n) :
    ∃ e, copyRegion target targetWidth targetHeight data x y width = .error e ∧
      (copyInPlace targetWidth targetHeight data x y width).run target =
        .error (.refused e) target := by
  rw [copyRegion, copyInPlace]
  split
  · exact ⟨_, rfl, rfl⟩
  · rename_i hragged
    split
    · exact ⟨_, rfl, rfl⟩
    · rename_i hinside
      split
      · exact ⟨_, rfl, rfl⟩
      · -- No bound is left that the block could violate.
        rename_i hcells
        exact absurd (regionFits_iff.2 ⟨hragged, hinside, hcells⟩) h

theorem copyInPlace_does (targetWidth targetHeight : Nat) (data : Array UInt32) (x y width : Nat) :
    InPlace.Does (copyInPlace targetWidth targetHeight data x y width)
      fun target : Vector UInt32 n =>
        copyRegion target targetWidth targetHeight data x y width := by
  intro target
  dsimp only
  by_cases h : RegionFits n targetWidth targetHeight data.size x y width
  · rw [copyRegion_of_fits h target, run_copyInPlace_of_fits h target]
    rfl
  · rcases refused_of_not_fits h target with ⟨e, herror, hrun⟩
    rw [herror, hrun]
    rfl

end Rows

/-- A block is copied exactly if it has a place in the grid: its words then stand in their cells,
and no other cell has changed. A block without a place leaves every cell as it is.

Copying in place ends in the same way: with the same cells or with the same cause and the cells from
before, and never at a slice that reaches out of the grid. -/
theorem block_is_copied_whole_or_not_at_all (target : Vector UInt32 n)
    (targetWidth targetHeight : Nat) (data : Array UInt32) (x y width : Nat) :
    ((∃ copied, copyRegion target targetWidth targetHeight data x y width = .ok copied) ↔
        0 < width ∧ width ∣ data.size ∧ x + width ≤ targetWidth ∧
          y + data.size / width ≤ targetHeight ∧ n = targetWidth * targetHeight) ∧
      (∀ e, copyRegion target targetWidth targetHeight data x y width = .error e →
        (copyInPlace targetWidth targetHeight data x y width).run target =
          .error (.refused e) target) ∧
      ∀ copied, copyRegion target targetWidth targetHeight data x y width = .ok copied →
        (copyInPlace targetWidth targetHeight data x y width).run target = .ok () copied ∧
          HoldsRows target copied targetWidth data x y width (data.size / width) := by
  by_cases h : RegionFits n targetWidth targetHeight data.size x y width
  · rw [copyRegion_of_fits h target]
    refine ⟨⟨fun _ => ?_, fun _ => ⟨_, rfl⟩⟩, ?_, ?_⟩
    · exact ⟨h.width_pos, h.width_dvd, h.columns_le, h.rows_le, h.cells_eq⟩
    · intro e herror
      cases herror
    · intro copied hok
      cases hok
      exact ⟨run_copyInPlace_of_fits h target, holdsRows_writeCells h target⟩
  · rcases refused_of_not_fits h target with ⟨e, herror, hrun⟩
    rw [herror]
    refine ⟨⟨?_, ?_⟩, ?_, ?_⟩
    · rintro ⟨copied, hok⟩
      cases hok
    · rintro ⟨hwidth, hdvd, hcolumns, hrows, hcells⟩
      exact absurd ⟨hwidth, hdvd, hcolumns, hrows, hcells⟩ h
    · intro e' herror'
      cases herror'
      exact hrun
    · intro copied hok
      cases hok

/-- Two rows of two words fit into the middle of a grid of four by four, and not at its edge. -/
theorem twoRows_are_copied_whole :
    (∃ copied, copyRegion (Vector.replicate 16 7) 4 4 #[1, 2, 3, 4] 1 2 2 = .ok copied ∧
      copied[13] = 3 ∧ copied[12] = 7) ∧
      (copyInPlace 4 4 #[1, 2, 3, 4] 3 2 2).run (Vector.replicate 16 7) =
        .error (.refused (.rangeViolation (.outsideTable 2 2 3 2 4 4))) (Vector.replicate 16 7) := by
  constructor
  · rcases block_is_copied_whole_or_not_at_all (Vector.replicate 16 7) 4 4 #[1, 2, 3, 4] 1 2 2
      with ⟨hplace, -, hcopied⟩
    rcases hplace.2 (by decide) with ⟨copied, hok⟩
    have hheld := (hcopied copied hok).2
    rcases hheld.inside 1 (by decide) 0 (by decide) with ⟨_, _, hword⟩
    exact ⟨copied, hok, hword, hheld.outside 12 (by decide) (by decide)⟩
  · exact (block_is_copied_whole_or_not_at_all (Vector.replicate 16 7) 4 4 #[1, 2, 3, 4] 3 2 2).2.1
      _ rfl

end TileRules
