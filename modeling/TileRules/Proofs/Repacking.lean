import TileRules.Proofs.Flattening

/-!
# Repacking — a row is packed again from its fields

Reading a row takes its value, its modes and its leaves apart, and packing puts them together. Every
bit of a row that is read belongs to one field, so a row is packed again to itself without the bits
that no field uses.

- `Mode.toNat_bits_ofBits`: a mode that is read keeps its low bits, as a leaf does
  (`Leaf.toNat_bits_ofBits`);
- `Row.used` clears the bits that no field uses;
- `Row.pack_flat`: packing what is read off a row gives its used bits;
- `Row.Bounded` holds of the rows without other bits, and `packing_is_bijective` says that these are
  the rows of conditions with leaves of nine bits and a value of five bits, one row for each.
-/

namespace TileRules

open Layout

/-! ## Fields -/

theorem Mode.toNat_bits_ofBits (bits : UInt32) : (ofBits bits).bits.toNat = bits.toNat % 4 := by
  have hmask : (bits &&& modeMask).toNat = bits.toNat % 4 := toNat_and_mask 2 rfl
  have hcases : bits.toNat % 4 = 0 ∨ bits.toNat % 4 = 1 ∨ bits.toNat % 4 = 2 ∨
      bits.toNat % 4 = 3 := by
    omega
  rw [ofBits, hmask]
  rcases hcases with h | h | h | h <;> rw [h] <;> rfl

theorem storeValue_loadValue (word : UInt32) :
    (storeValue (loadValue word)).toNat = word.toNat % 32 := by
  rw [toNat_storeValue, loadValue_eq]
  omega

/-! ## Words -/

theorem toNat_modeBits_of_modesOf {f : Flat} {field : UInt32} (h : f.modes = Row.modesOf field) :
    f.modeBits.toNat = field.toNat % 2 ^ 14 := by
  have hread : ∀ (i : Nat) (hi : i < (f.modes.toList.map Mode.bits).length),
      (f.modes.toList.map Mode.bits)[i].toNat =
        field.toNat / 2 ^ ((2 : UInt32).toNat * i) % 2 ^ (2 : UInt32).toNat := by
    intro i hi
    -- Mode `i` is read two bits at a time, and all seven of them stand inside the word.
    have hslot : i < 7 := by simpa using hi
    have hshift : (2 : UInt32).toNat * i < 32 := by
      rw [show (2 : UInt32).toNat = 2 from rfl]
      omega
    rw [List.getElem_map, Vector.getElem_toList]
    simp only [h, Row.modesOf, Vector.getElem_ofFn]
    rw [Mode.toNat_bits_ofBits, toNat_fieldAt hshift]
    rfl
  have hpacked := toNat_packFields_of_read f.fieldsFit_modes field.toNat hread
  rwa [List.length_map, Vector.length_toList] at hpacked

/-- The first `n` leaves of a word, as it is read. -/
def leavesIn (word : UInt32) (n : Nat) : List Leaf :=
  (List.range n).map fun i => Leaf.ofBits (fieldAt leafBits word i)

theorem toNat_packFields_leavesIn (word : UInt32) {n : Nat} (hn : n ≤ 3) :
    (packFields leafBits ((leavesIn word n).map Leaf.bits)).toNat = word.toNat % 2 ^ (9 * n) := by
  have hlength : (leavesIn word n).length = n := by
    rw [leavesIn, List.length_map, List.length_range]
  have hfits : ∀ l ∈ leavesIn word n, l.Fits := by
    intro l hl
    obtain ⟨i, _, rfl⟩ := List.mem_map.1 hl
    exact Leaf.fits_ofBits _
  have hread : ∀ (i : Nat) (hi : i < ((leavesIn word n).map Leaf.bits).length),
      ((leavesIn word n).map Leaf.bits)[i].toNat =
        word.toNat / 2 ^ (leafBits.toNat * i) % 2 ^ leafBits.toNat := by
    intro i hi
    rw [List.length_map, hlength] at hi
    have hshift : leafBits.toNat * i < 32 := by
      rw [show leafBits.toNat = 9 from rfl]
      omega
    simp only [leavesIn, List.getElem_map, List.getElem_range]
    rw [Leaf.toNat_bits_ofBits, toNat_fieldAt hshift]
    rfl
  have hroom : (leavesIn word n).length ≤ 3 := by omega
  have hpacked := toNat_packFields_of_read (Leaf.fieldsFit hfits hroom) word.toNat hread
  rw [List.length_map, hlength] at hpacked
  exact hpacked

/-! ## Rows -/

namespace Row

/-- The row without the bits that no field uses: a header has nineteen of them in use, and every
leaf of the other words has nine. -/
def used (r : Row) : Row :=
  { header := r.header &&& 0x7ffff
    lower := r.lower &&& 0x7ffffff
    middle := r.middle &&& 0x7ffffff
    upper := r.upper &&& 0x3ffff }

theorem header_pack_flat (r : Row) : (r.flat.pack r.value).header = r.used.header := by
  have hmodes : r.flat.modeBits.toNat = (r.header >>> modeShift).toNat % 2 ^ 14 :=
    toNat_modeBits_of_modesOf rfl
  have hvalue : (storeValue r.value).toNat = r.header.toNat % 32 := storeValue_loadValue r.header
  have hused : r.used.header.toNat = r.header.toNat % 2 ^ 19 := toNat_and_mask 19 rfl
  have hshift : (r.header >>> modeShift).toNat = r.header.toNat / 2 ^ 5 :=
    toNat_shiftRight_of_lt (by decide)
  apply UInt32.toNat_inj.1
  rw [header_pack, hmodes, hvalue, hused, hshift]
  omega

/-- What is read off a row is packed to the bits of the row that are in use. -/
theorem pack_flat (r : Row) : r.flat.pack r.value = r.used := by
  -- The leaves of a word are packed from the low end on.
  have hthree : ∀ word : UInt32,
      packFields leafBits ((leavesIn word 3).map Leaf.bits) = word &&& 0x7ffffff := by
    intro word
    apply UInt32.toNat_inj.1
    rw [toNat_packFields_leavesIn word (Nat.le_refl 3)]
    exact (toNat_and_mask 27 rfl).symm
  have htwo : ∀ word : UInt32,
      packFields leafBits ((leavesIn word 2).map Leaf.bits) = word &&& 0x3ffff := by
    intro word
    apply UInt32.toNat_inj.1
    rw [toNat_packFields_leavesIn word (by decide)]
    exact (toNat_and_mask 18 rfl).symm
  have hheader := r.header_pack_flat
  have hlower : (r.flat.pack r.value).lower = r.used.lower := hthree r.lower
  have hmiddle : (r.flat.pack r.value).middle = r.used.middle := hthree r.middle
  have hupper : (r.flat.pack r.value).upper = r.used.upper := htwo r.upper
  cases hpacked : r.flat.pack r.value with
  | mk header lower middle upper =>
      rw [hpacked] at hheader hlower hmiddle hupper
      rw [used, Row.mk.injEq]
      exact ⟨hheader, hlower, hmiddle, hupper⟩

/-! ## Rows without unused bits -/

/-- No bit is set that no field uses. -/
structure Bounded (r : Row) : Prop where
  header_lt : r.header.toNat < 2 ^ 19
  lower_lt : r.lower.toNat < 2 ^ 27
  middle_lt : r.middle.toNat < 2 ^ 27
  upper_lt : r.upper.toNat < 2 ^ 18

theorem bounded_pack {f : Flat} (hfit : ∀ (j : Nat) (hj : j < 8), (f.leaves[j]).Fits)
    (value : Int) : (f.pack value).Bounded where
  header_lt := header_pack_lt f value
  lower_lt := packFields_lt (Leaf.fieldsFit (fits_of_mem_map hfit [0, 1, 2]) (by simp))
  middle_lt := packFields_lt (Leaf.fieldsFit (fits_of_mem_map hfit [3, 4, 5]) (by simp))
  upper_lt := packFields_lt (Leaf.fieldsFit (fits_of_mem_map hfit [6, 7]) (by simp))

theorem Bounded.used_eq {r : Row} (h : r.Bounded) : r.used = r := by
  rw [used, and_mask_of_lt 19 rfl h.header_lt, and_mask_of_lt 27 rfl h.lower_lt,
    and_mask_of_lt 27 rfl h.middle_lt, and_mask_of_lt 18 rfl h.upper_lt]

theorem value_bounds (r : Row) : -16 ≤ r.value ∧ r.value ≤ 15 := by
  rw [value, loadValue_eq]
  omega

theorem fits_leaves (r : Row) {j : Nat} (hj : j < 8) : (r.leaves[j]).Fits := by
  simp only [leaves, Vector.getElem_ofFn]
  exact Leaf.fits_ofBits _

end Row

/-- Seven modes, eight leaves of nine bits and a value of five bits have one row, which gives them
back, and every row without unused bits is the row of such fields. -/
theorem packing_is_bijective :
    (∀ (f : Flat) (value : Int), (∀ (j : Nat) (hj : j < 8), (f.leaves[j]).Fits) →
      -16 ≤ value → value ≤ 15 →
        (f.pack value).value = value ∧ (f.pack value).modes = f.modes ∧
          (f.pack value).leaves = f.leaves ∧ (f.pack value).Bounded) ∧
      ∀ r : Row, r.Bounded →
        (∀ truncated, Flat.pack ⟨r.modes, r.leaves, truncated⟩ r.value = r) ∧
          -16 ≤ r.value ∧ r.value ≤ 15 ∧ ∀ (j : Nat) (hj : j < 8), (r.leaves[j]).Fits := by
  constructor
  · intro f value hfit hlow hhigh
    have hvalue : value = wrapValue value := wrapValue_unique hlow hhigh rfl
    exact ⟨(Row.value_pack f value).trans hvalue.symm, Row.modes_pack f value,
      Row.leaves_pack hfit value, Row.bounded_pack hfit value⟩
  · intro r hbounded
    have hvalue := r.value_bounds
    refine ⟨?_, hvalue.1, hvalue.2, fun j hj => r.fits_leaves hj⟩
    intro truncated
    -- The number of lost operators is not packed.
    calc Flat.pack ⟨r.modes, r.leaves, truncated⟩ r.value
        = r.flat.pack r.value := rfl
      _ = r.used := r.pack_flat
      _ = r := hbounded.used_eq

/-- Every bit that a field uses is set. -/
def fullRow : Row :=
  { header := 0x7ffff, lower := 0x7ffffff, middle := 0x7ffffff, upper := 0x3ffff }

theorem fullRow_is_packed_again :
    fullRow.Bounded ∧ fullRow.flat.pack fullRow.value = fullRow ∧
      (fullRow.flat.pack (-16)).value = -16 := by
  have hbounded : fullRow.Bounded := ⟨by decide, by decide, by decide, by decide⟩
  rcases packing_is_bijective.2 fullRow hbounded with ⟨hpacked, -, -, hfit⟩
  have hvalue := packing_is_bijective.1 fullRow.flat (-16) hfit (by decide) (by decide)
  exact ⟨hbounded, hpacked 0, hvalue.1⟩

end TileRules
