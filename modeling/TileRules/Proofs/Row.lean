import TileRules.Row
import TileRules.Proofs.Flat
import TileRules.Proofs.Packed

/-!
# Row — what a packed row gives back

Every field of a row has exactly the room that its values need, so packing loses nothing but the
part of the value that does not fit in five bits, and the part of a leaf above nine bits.

- `loadValue_of_stored`: a stored value is read as the number between −16 and 15 that differs from
  it by a multiple of 32;
- `Row.modes_pack`, `Row.leaves_pack` and `Row.value_pack`: the fields of a packed row are what was
  packed;
- `Row.header_pack_lt`: the header of a packed row has nineteen bits, so a block can raise it.
-/

namespace TileRules

open Layout

/-! ## Signed values -/

/-- The number between −16 and 15 that differs from `value` by a multiple of 32. -/
def wrapValue (value : Int) : Int :=
  value.bmod 32

theorem wrapValue_spec (value : Int) :
    -16 ≤ wrapValue value ∧ wrapValue value ≤ 15 ∧ wrapValue value % 32 = value % 32 := by
  simp only [wrapValue, Int.bmod_def]
  split <;> omega

theorem wrapValue_unique {value n : Int} (hlow : -16 ≤ n) (hhigh : n ≤ 15)
    (hmod : n % 32 = value % 32) : n = wrapValue value := by
  have h := wrapValue_spec value
  omega

theorem toNat_storeValue (value : Int) :
    (storeValue value).toNat = ((value + 16) % 32).toNat := by
  have hbound : ((value + 16) % 32).toNat < 2 ^ 32 := by omega
  rw [storeValue, valueOffset, UInt32.toNat_ofNat', Nat.mod_eq_of_lt hbound]

theorem storeValue_lt (value : Int) : (storeValue value).toNat < 2 ^ 5 := by
  rw [toNat_storeValue]
  omega

theorem loadValue_eq (word : UInt32) : loadValue word = (word.toNat % 32 : Nat) - 16 := by
  rw [loadValue, toNat_and_mask 5 rfl]
  rfl

/-- Only the low five bits of a word count for its value. -/
theorem loadValue_of_stored {word : UInt32} {value : Int}
    (h : word.toNat % 32 = (storeValue value).toNat) : loadValue word = wrapValue value := by
  rw [loadValue_eq, h, toNat_storeValue]
  apply wrapValue_unique <;> omega

/-! ## Modes -/

namespace Mode

theorem bits_lt (m : Mode) : m.bits.toNat < 2 ^ 2 := by
  cases m <;> decide

theorem ofBits_of_toNat {bits : UInt32} {m : Mode} (h : bits.toNat % 4 = m.bits.toNat) :
    ofBits bits = m := by
  have hmask : (bits &&& modeMask).toNat = m.bits.toNat := by
    rw [toNat_and_mask 2 rfl]
    exact h
  rw [ofBits, hmask]
  cases m <;> rfl

end Mode

namespace Flat

theorem fieldsFit_modes (f : Flat) : FieldsFit 2 (f.modes.toList.map Mode.bits) := by
  refine ⟨?_, ?_, by decide⟩
  · intro field hfield
    obtain ⟨m, _, rfl⟩ := List.mem_map.1 hfield
    exact m.bits_lt
  · simp

theorem modeBits_lt (f : Flat) : f.modeBits.toNat < 2 ^ 14 := by
  have h : f.modeBits.toNat < 2 ^ (2 * (f.modes.toList.map Mode.bits).length) :=
    packFields_lt f.fieldsFit_modes
  rwa [List.length_map, Vector.length_toList] at h

end Flat

theorem Row.modesOf_modeBits (f : Flat) : Row.modesOf f.modeBits = f.modes := by
  apply Vector.ext
  intro i hi
  have hindex : i < (f.modes.toList.map Mode.bits).length := by
    simpa using hi
  have hfield := fieldAt_packFields f.fieldsFit_modes hindex
  simp only [List.getElem_map, Vector.getElem_toList] at hfield
  simp only [Row.modesOf, Vector.getElem_ofFn]
  exact Mode.ofBits_of_toNat hfield

/-! ## Leaves -/

namespace Leaf

theorem fieldsFit {leaves : List Leaf} (hfit : ∀ l ∈ leaves, l.Fits) (hroom : leaves.length ≤ 3) :
    FieldsFit leafBits (leaves.map bits) := by
  refine ⟨?_, ?_, by decide⟩
  · intro field hfield
    obtain ⟨l, hl, rfl⟩ := List.mem_map.1 hfield
    rw [bits, UInt16.toNat_toUInt32]
    exact UInt16.lt_iff_toNat_lt.1 (hfit l hl)
  · rw [List.length_map, show leafBits.toNat = 9 from rfl]
    omega

theorem ofBits_of_toNat {word : UInt32} {l : Leaf} (h : word.toNat % 512 = l.bits.toNat) :
    ofBits word = l := by
  have hmask : (word &&& leafMask).toNat = l.bits.toNat := by
    rw [toNat_and_mask 9 rfl]
    exact h
  have hraw : (word &&& leafMask).toUInt16 = l.raw := by
    rw [UInt32.toNat_inj.1 hmask, bits, UInt16.toUInt16_toUInt32]
  rw [ofBits, hraw]

theorem ofBits_fieldAt {leaves : List Leaf} (hfit : ∀ l ∈ leaves, l.Fits)
    (hroom : leaves.length ≤ 3) (index : Nat) (hindex : index < leaves.length) :
    ofBits (fieldAt leafBits (packFields leafBits (leaves.map bits)) index) = leaves[index] := by
  have hpacked : index < (leaves.map bits).length := by
    simpa using hindex
  have hfield := fieldAt_packFields (fieldsFit hfit hroom) hpacked
  rw [List.getElem_map] at hfield
  exact ofBits_of_toNat hfield

end Leaf

/-! ## Rows -/

namespace Row

theorem header_pack (f : Flat) (value : Int) :
    (f.pack value).header.toNat = f.modeBits.toNat * 32 + (storeValue value).toNat := by
  have hroom : f.modeBits.toNat * 2 ^ modeShift.toNat < 2 ^ 32 := by
    have h := f.modeBits_lt
    rw [show modeShift.toNat = 5 from rfl]
    omega
  exact toNat_shiftLeft_or (by decide) (storeValue_lt value) hroom

theorem header_pack_lt (f : Flat) (value : Int) : (f.pack value).header.toNat < 2 ^ 19 := by
  have hmodes := f.modeBits_lt
  have hstored := storeValue_lt value
  rw [header_pack]
  omega

theorem header_pack_shiftRight (f : Flat) (value : Int) :
    (f.pack value).header >>> modeShift = f.modeBits := by
  have hroom : f.modeBits.toNat * 2 ^ modeShift.toNat < 2 ^ 32 := by
    have h := f.modeBits_lt
    rw [show modeShift.toNat = 5 from rfl]
    omega
  exact shiftLeft_or_shiftRight (by decide) (storeValue_lt value) hroom

@[simp]
theorem modes_pack (f : Flat) (value : Int) : (f.pack value).modes = f.modes := by
  rw [modes, header_pack_shiftRight, modesOf_modeBits]

@[simp]
theorem value_pack (f : Flat) (value : Int) : (f.pack value).value = wrapValue value := by
  have hstored := storeValue_lt value
  apply loadValue_of_stored
  rw [header_pack]
  omega

theorem fits_of_mem_map {f : Flat} (hfit : ∀ (j : Nat) (hj : j < 8), (f.leaves[j]).Fits)
    (slots : List (Fin 8)) : ∀ l ∈ slots.map f.leaves.get, l.Fits := by
  intro l hl
  rcases List.mem_map.1 hl with ⟨j, -, rfl⟩
  exact hfit j.val j.isLt

theorem leaves_pack {f : Flat} (hfit : ∀ (j : Nat) (hj : j < 8), (f.leaves[j]).Fits)
    (value : Int) : (f.pack value).leaves = f.leaves := by
  have hlow := fits_of_mem_map hfit [0, 1, 2]
  have hmiddle := fits_of_mem_map hfit [3, 4, 5]
  have hupper := fits_of_mem_map hfit [6, 7]
  apply Vector.ext
  intro j hj
  simp only [leaves, Vector.getElem_ofFn]
  have hplace : j = 0 ∨ j = 1 ∨ j = 2 ∨ j = 3 ∨ j = 4 ∨ j = 5 ∨ j = 6 ∨ j = 7 := by omega
  rcases hplace with rfl | rfl | rfl | rfl | rfl | rfl | rfl | rfl
  · exact Leaf.ofBits_fieldAt hlow (by simp) 0 (by simp)
  · exact Leaf.ofBits_fieldAt hlow (by simp) 1 (by simp)
  · exact Leaf.ofBits_fieldAt hlow (by simp) 2 (by simp)
  · exact Leaf.ofBits_fieldAt hmiddle (by simp) 0 (by simp)
  · exact Leaf.ofBits_fieldAt hmiddle (by simp) 1 (by simp)
  · exact Leaf.ofBits_fieldAt hmiddle (by simp) 2 (by simp)
  · exact Leaf.ofBits_fieldAt hupper (by simp) 0 (by simp)
  · exact Leaf.ofBits_fieldAt hupper (by simp) 1 (by simp)

end Row
end TileRules
