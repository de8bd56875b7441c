import TileRules.Leaf
import TileRules.Proofs.Packed

/-!
# Leaf — the fields of a packed leaf

A leaf has five bits of tile, three of direction and one of distance. This module reads them as
numbers, for a leaf of any sixteen bits, and says what packing parts into a leaf keeps of them.

- `Leaf.toNat_packParts` is a packed leaf as a number, and `Leaf.toNat_tile`,
  `Leaf.toNat_direction` and `Leaf.toNat_distance` are its fields;
- `Leaf.ext_fields`: a leaf of nine bits is known by its fields;
- every constructor of leaves makes leaves of nine bits (`Leaf.fits_ofParts`, `Leaf.fits_ofBits`,
  `Leaf.fits_of_checked`);
- `Leaf.checked_cases` is everything that the constructor with checks can answer.
-/

namespace TileRules

open Layout

theorem Direction.toNat_id_ofBits (bits : UInt32) : (ofBits bits).id.toNat = bits.toNat % 8 := by
  have hmask : (bits &&& 7).toNat = bits.toNat % 8 := toNat_and_mask 3 rfl
  have hcases : bits.toNat % 8 = 0 ∨ bits.toNat % 8 = 1 ∨ bits.toNat % 8 = 2 ∨
      bits.toNat % 8 = 3 ∨ bits.toNat % 8 = 4 ∨ bits.toNat % 8 = 5 ∨ bits.toNat % 8 = 6 ∨
      bits.toNat % 8 = 7 := by
    omega
  rw [ofBits, hmask]
  rcases hcases with h | h | h | h | h | h | h | h <;> rw [h] <;> rfl

namespace Leaf

/-! ## Packing parts -/

section Parts

variable (tile direction distance : UInt32)

theorem toNat_packParts :
    (packParts tile direction distance).toNat =
      tile.toNat % 32 * 16 + direction.toNat % 8 * 2 + if distance = 2 then 1 else 0 := by
  have htile : (tile &&& tileMask).toNat = tile.toNat % 32 := toNat_and_mask 5 rfl
  have hdirection : (direction &&& directionMask).toNat = direction.toNat % 8 :=
    toNat_and_mask 3 rfl
  have hmagnitude : (if distance == 2 then 1 else 0 : UInt32).toNat =
      if distance = 2 then 1 else 0 := by
    by_cases h : distance = 2 <;> simp [h]
  have hbit : (if distance = 2 then 1 else 0) < 2 := by
    split <;> decide
  -- The direction is laid above the magnitude, and the tile above both of them.
  have hlow : (((direction &&& directionMask) <<< 1) |||
      (if distance == 2 then 1 else 0 : UInt32)).toNat =
        direction.toNat % 8 * 2 + if distance = 2 then 1 else 0 := by
    rw [toNat_shiftLeft_or (by decide) (by rw [hmagnitude]; exact hbit)
      (by rw [hdirection, show (1 : UInt32).toNat = 1 from rfl]; omega), hdirection, hmagnitude]
    rfl
  rw [packParts, UInt32.or_assoc,
    toNat_shiftLeft_or (by decide) (by rw [hlow, show (4 : UInt32).toNat = 4 from rfl]; omega)
      (by rw [htile, show (4 : UInt32).toNat = 4 from rfl]; omega), htile, hlow]
  exact (Nat.add_assoc _ _ _).symm

theorem packParts_lt : (packParts tile direction distance).toNat < 512 := by
  rw [toNat_packParts]
  split <;> omega

theorem toNat_raw_ofParts :
    (ofParts tile direction distance).raw.toNat =
      tile.toNat % 32 * 16 + direction.toNat % 8 * 2 + if distance = 2 then 1 else 0 := by
  have hlt := packParts_lt tile direction distance
  rw [ofParts, UInt32.toNat_toUInt16, Nat.mod_eq_of_lt (by omega), toNat_packParts]

end Parts

/-! ## Fields -/

section Fields

variable (l : Leaf)

theorem toNat_tile : l.tile.toNat = l.raw.toNat / 16 % 32 := by
  rw [tile, unpackParts, toNat_and_mask 5 rfl, toNat_shiftRight_of_lt (by decide), bits,
    UInt16.toNat_toUInt32]
  rfl

theorem toNat_direction : l.direction.id.toNat = l.raw.toNat / 2 % 8 := by
  have hfield : ((l.bits >>> 1) &&& directionMask).toNat = l.raw.toNat / 2 % 8 := by
    rw [toNat_and_mask 3 rfl, toNat_shiftRight_of_lt (by decide), bits, UInt16.toNat_toUInt32]
    rfl
  rw [direction, unpackParts, Direction.toNat_id_ofBits, hfield, Nat.mod_mod]

theorem toNat_distance : l.distance.toNat = l.raw.toNat % 2 + 1 := by
  have hfield : (l.bits &&& 1).toNat = l.raw.toNat % 2 := by
    rw [toNat_and_mask 1 rfl, bits, UInt16.toNat_toUInt32, Nat.pow_one]
  rw [distance, magnitude, unpackParts, UInt32.toNat_add, hfield]
  show (l.raw.toNat % 2 + 1) % 2 ^ 32 = l.raw.toNat % 2 + 1
  omega

end Fields

/-- A leaf that is read off a word keeps its low nine bits. -/
theorem toNat_bits_ofBits (word : UInt32) : (ofBits word).bits.toNat = word.toNat % 512 := by
  have hmask : (word &&& leafMask).toNat = word.toNat % 512 := toNat_and_mask 9 rfl
  rw [ofBits, bits, UInt16.toNat_toUInt32, UInt32.toNat_toUInt16, hmask]
  omega

/-- A leaf of nine bits is known by its fields. -/
theorem ext_fields {l m : Leaf} (hl : l.Fits) (hm : m.Fits) (htile : l.tile = m.tile)
    (hdirection : l.direction = m.direction) (hdistance : l.distance = m.distance) : l = m := by
  have hlLt : l.raw.toNat < 512 := UInt16.lt_iff_toNat_lt.1 hl
  have hmLt : m.raw.toNat < 512 := UInt16.lt_iff_toNat_lt.1 hm
  have htile' := congrArg UInt32.toNat htile
  have hdirection' := congrArg (fun d => d.id.toNat) hdirection
  have hdistance' := congrArg UInt32.toNat hdistance
  simp only [toNat_tile, toNat_direction, toNat_distance] at htile' hdirection' hdistance'
  have hraw : l.raw.toNat = m.raw.toNat := by omega
  exact congrArg Leaf.mk (UInt16.toNat_inj.1 hraw)

/-! ## Leaves of nine bits -/

theorem fits_of_lt {value : UInt32} (h : value.toNat < 512) : (⟨value.toUInt16⟩ : Leaf).Fits := by
  have hraw : value.toUInt16.toNat = value.toNat := by
    rw [UInt32.toNat_toUInt16]
    omega
  show value.toUInt16 < 512
  rw [UInt16.lt_iff_toNat_lt, hraw]
  exact h

theorem fits_never : never.Fits := by
  decide

theorem fits_ofParts (tile direction distance : UInt32) : (ofParts tile direction distance).Fits :=
  fits_of_lt (packParts_lt tile direction distance)

theorem fits_ofBits (bits : UInt32) : (ofBits bits).Fits := by
  apply fits_of_lt
  rw [UInt32.toNat_and]
  exact Nat.and_lt_two_pow (n := 9) _ (by decide)

/-! ## The constructor with checks -/

section Checked

variable (tile direction distance : UInt32)

/-- The leaf that is built from these parts has these parts. -/
structure ReadsBack : Prop where
  tile_eq : (ofParts tile direction distance).tile = tile
  direction_eq : (ofParts tile direction distance).direction.id = direction
  distance_eq : (ofParts tile direction distance).distance = distance

theorem tile_ofParts_eq_iff : (ofParts tile direction distance).tile = tile ↔ tile.toNat < 32 := by
  rw [← UInt32.toNat_inj, toNat_tile, toNat_raw_ofParts]
  split <;> omega

theorem direction_ofParts_eq_iff :
    (ofParts tile direction distance).direction.id = direction ↔ direction.toNat < 8 := by
  rw [← UInt32.toNat_inj, toNat_direction, toNat_raw_ofParts]
  split <;> omega

theorem distance_ofParts_eq_iff :
    (ofParts tile direction distance).distance = distance ↔ distance = 1 ∨ distance = 2 := by
  simp only [← UInt32.toNat_inj, toNat_distance, toNat_raw_ofParts, UInt32.reduceToNat]
  split <;> omega

/-- Parts that read back make a leaf, and the first part that does not is refused. -/
theorem checked_cases :
    (ReadsBack tile direction distance ∧
      checked tile direction distance = .ok (ofParts tile direction distance)) ∨
    ((ofParts tile direction distance).tile ≠ tile ∧
      checked tile direction distance = .error (.invalidArgument (.leafTile tile))) ∨
    ((ofParts tile direction distance).direction.id ≠ direction ∧
      checked tile direction distance = .error (.invalidArgument (.leafDirection direction))) ∨
    ((ofParts tile direction distance).distance ≠ distance ∧
      checked tile direction distance = .error (.invalidArgument (.leafDistance distance))) := by
  rw [checked]
  by_cases htile : tile.toNat < 32
  · rw [if_neg (Nat.not_le.2 htile)]
    by_cases hdirection : direction.toNat < 8
    · have hmask : ¬ direction > directionMask := by
        rw [gt_iff_lt, UInt32.lt_iff_toNat_lt, show directionMask.toNat = 7 from rfl]
        omega
      rw [if_neg hmask]
      by_cases hdistance : distance = 1 ∨ distance = 2
      · refine .inl ⟨⟨?_, ?_, ?_⟩, ?_⟩
        · exact (tile_ofParts_eq_iff tile direction distance).2 htile
        · exact (direction_ofParts_eq_iff tile direction distance).2 hdirection
        · exact (distance_ofParts_eq_iff tile direction distance).2 hdistance
        · rcases hdistance with rfl | rfl <;> rfl
      · refine .inr (.inr (.inr ⟨?_, ?_⟩))
        · rwa [Ne, distance_ofParts_eq_iff]
        · simp only [not_or] at hdistance
          rw [if_pos (by simp [hdistance])]
    · have hmask : direction > directionMask := by
        rw [gt_iff_lt, UInt32.lt_iff_toNat_lt, show directionMask.toNat = 7 from rfl]
        omega
      refine .inr (.inr (.inl ⟨?_, ?_⟩))
      · rwa [Ne, direction_ofParts_eq_iff]
      · rw [if_pos hmask]
  · refine .inr (.inl ⟨?_, ?_⟩)
    · rwa [Ne, tile_ofParts_eq_iff]
    · rw [if_pos (Nat.le_of_not_lt htile)]

variable {tile direction distance}

theorem checked_eq_ok_iff {l : Leaf} :
    checked tile direction distance = .ok l ↔
      ReadsBack tile direction distance ∧ l = ofParts tile direction distance := by
  have hrefused : ∀ e, checked tile direction distance = .error e →
      ¬ ReadsBack tile direction distance → (checked tile direction distance = .ok l ↔
        ReadsBack tile direction distance ∧ l = ofParts tile direction distance) := by
    intro e herror hlost
    rw [herror]
    exact ⟨(nomatch ·), fun h => absurd h.1 hlost⟩
  rcases checked_cases tile direction distance with
    ⟨hback, hok⟩ | ⟨hlost, herror⟩ | ⟨hlost, herror⟩ | ⟨hlost, herror⟩
  · rw [hok, Except.ok.injEq]
    exact ⟨fun h => ⟨hback, h.symm⟩, fun h => h.2.symm⟩
  · exact hrefused _ herror fun hback => hlost hback.tile_eq
  · exact hrefused _ herror fun hback => hlost hback.direction_eq
  · exact hrefused _ herror fun hback => hlost hback.distance_eq

theorem fits_of_checked {l : Leaf} (h : checked tile direction distance = .ok l) : l.Fits := by
  rw [(checked_eq_ok_iff.1 h).2]
  exact fits_ofParts tile direction distance

end Checked

end Leaf
end TileRules
