import Mathlib.Algebra.Group.Nat.Defs
import TileRules.Packed

/-!
# Packed — reading packed fields back

Laying a field below a word is multiplication and addition as long as both have room, and masking is
a remainder. So fields that fit are read back by division.

- `toNat_shiftLeft_or` is the arithmetic of laying one field in, and `shiftLeft_or_shiftRight` takes
  it off again;
- `fieldAt_packFields`: a field of a packed word is the field that was laid in, and
  `toNat_packFields_of_read`: fields that were read off a word are packed to the word again.
-/

namespace TileRules

/-! ## One field below a word -/

section OneField

variable {above low shift : UInt32}

theorem toNat_shiftLeft_or (hshift : shift.toNat < 32) (hlow : low.toNat < 2 ^ shift.toNat)
    (hroom : above.toNat * 2 ^ shift.toNat < 2 ^ 32) :
    ((above <<< shift) ||| low).toNat = above.toNat * 2 ^ shift.toNat + low.toNat := by
  have hmod : shift.toNat % 32 = shift.toNat := Nat.mod_eq_of_lt hshift
  rw [UInt32.toNat_or, UInt32.toNat_shiftLeft, hmod, Nat.shiftLeft_eq, Nat.mod_eq_of_lt hroom,
    ← Nat.shiftLeft_eq, ← Nat.shiftLeft_add_eq_or_of_lt hlow]

theorem toNat_shiftRight_of_lt {word : UInt32} (hshift : shift.toNat < 32) :
    (word >>> shift).toNat = word.toNat / 2 ^ shift.toNat := by
  rw [UInt32.toNat_shiftRight, Nat.mod_eq_of_lt hshift, Nat.shiftRight_eq_div_pow]

theorem shiftLeft_or_shiftRight (hshift : shift.toNat < 32) (hlow : low.toNat < 2 ^ shift.toNat)
    (hroom : above.toNat * 2 ^ shift.toNat < 2 ^ 32) :
    ((above <<< shift) ||| low) >>> shift = above := by
  apply UInt32.toNat_inj.1
  rw [toNat_shiftRight_of_lt hshift, toNat_shiftLeft_or hshift hlow hroom, Nat.add_comm,
    Nat.add_mul_div_right _ _ (Nat.two_pow_pos _), Nat.div_eq_of_lt hlow, Nat.zero_add]

/-- A mask of the low bits is a remainder. -/
theorem toNat_and_mask {word mask : UInt32} (width : Nat) (hmask : mask.toNat = 2 ^ width - 1) :
    (word &&& mask).toNat = word.toNat % 2 ^ width := by
  rw [UInt32.toNat_and, hmask, Nat.and_two_pow_sub_one_eq_mod]

theorem and_mask_of_lt {word mask : UInt32} (width : Nat) (hmask : mask.toNat = 2 ^ width - 1)
    (h : word.toNat < 2 ^ width) : word &&& mask = word := by
  apply UInt32.toNat_inj.1
  rw [toNat_and_mask width hmask, Nat.mod_eq_of_lt h]

/-- A raised mask keeps what the mask keeps of the lowered word. -/
theorem and_shiftLeft (word mask : UInt32) (hshift : shift.toNat < 32) :
    word &&& (mask <<< shift) = ((word >>> shift) &&& mask) <<< shift := by
  apply UInt32.toNat_inj.1
  apply Nat.eq_of_testBit_eq
  intro i
  simp only [UInt32.toNat_and, UInt32.toNat_shiftLeft, UInt32.toNat_shiftRight,
    Nat.mod_eq_of_lt hshift, Nat.testBit_and, Nat.testBit_mod_two_pow, Nat.testBit_shiftLeft,
    Nat.testBit_shiftRight]
  by_cases hi : shift.toNat ≤ i
  · rw [Nat.add_sub_cancel' hi, Bool.and_left_comm, Bool.and_left_comm (word.toNat.testBit i)]
  · -- Below the shift neither side has a bit.
    simp [hi]

end OneField

/-! ## Many fields -/

section ManyFields

variable {width : UInt32}

/-- Every field has the width, and all of them together have room in a word. -/
structure FieldsFit (width : UInt32) (fields : List UInt32) : Prop where
  field_lt : ∀ field ∈ fields, field.toNat < 2 ^ width.toNat
  room : width.toNat * fields.length ≤ 32
  width_lt : width.toNat < 32

theorem FieldsFit.tail {field : UInt32} {fields : List UInt32}
    (h : FieldsFit width (field :: fields)) : FieldsFit width fields := by
  refine ⟨fun f hf => h.field_lt f (List.mem_cons_of_mem _ hf), ?_, h.width_lt⟩
  exact Nat.le_trans (Nat.mul_le_mul_left _ (Nat.le_succ _)) h.room

theorem toNat_packFields_cons_of_lt {field : UInt32} {fields : List UInt32}
    (h : FieldsFit width (field :: fields))
    (hrest : (packFields width fields).toNat < 2 ^ (width.toNat * fields.length)) :
    (packFields width (field :: fields)).toNat =
      (packFields width fields).toNat * 2 ^ width.toNat + field.toNat := by
  have hfield : field.toNat < 2 ^ width.toNat := h.field_lt field List.mem_cons_self
  have hroom : (packFields width fields).toNat * 2 ^ width.toNat < 2 ^ 32 := by
    calc (packFields width fields).toNat * 2 ^ width.toNat
        < 2 ^ (width.toNat * fields.length) * 2 ^ width.toNat :=
          Nat.mul_lt_mul_of_pos_right hrest (Nat.two_pow_pos _)
      _ = 2 ^ (width.toNat * (field :: fields).length) := by
          rw [List.length_cons, Nat.mul_succ, Nat.pow_add]
      _ ≤ 2 ^ 32 := Nat.pow_le_pow_right (by decide) h.room
  exact toNat_shiftLeft_or h.width_lt hfield hroom

theorem packFields_lt {fields : List UInt32} (h : FieldsFit width fields) :
    (packFields width fields).toNat < 2 ^ (width.toNat * fields.length) := by
  induction fields with
  | nil =>
      simp [packFields]
  | cons field fields ih =>
      have hfield : field.toNat < 2 ^ width.toNat := h.field_lt field List.mem_cons_self
      have hrest : (packFields width fields).toNat + 1 ≤ 2 ^ (width.toNat * fields.length) :=
        ih h.tail
      rw [toNat_packFields_cons_of_lt h hrest]
      calc (packFields width fields).toNat * 2 ^ width.toNat + field.toNat
          < ((packFields width fields).toNat + 1) * 2 ^ width.toNat := by
            rw [Nat.add_mul, Nat.one_mul]
            omega
        _ ≤ 2 ^ (width.toNat * fields.length) * 2 ^ width.toNat := Nat.mul_le_mul_right _ hrest
        _ = 2 ^ (width.toNat * (field :: fields).length) := by
            rw [List.length_cons, Nat.mul_succ, Nat.pow_add]

theorem toNat_packFields_cons {field : UInt32} {fields : List UInt32}
    (h : FieldsFit width (field :: fields)) :
    (packFields width (field :: fields)).toNat =
      (packFields width fields).toNat * 2 ^ width.toNat + field.toNat :=
  toNat_packFields_cons_of_lt h (packFields_lt h.tail)

theorem toNat_fieldAt {word : UInt32} {index : Nat} (h : width.toNat * index < 32) :
    (fieldAt width word index).toNat = word.toNat / 2 ^ (width.toNat * index) := by
  have hindex : width.toNat * index % 2 ^ 32 = width.toNat * index :=
    Nat.mod_eq_of_lt (Nat.lt_trans h (by decide))
  have hshift : (width * UInt32.ofNat index).toNat = width.toNat * index := by
    rw [UInt32.toNat_mul, UInt32.toNat_ofNat', Nat.mul_mod_mod, hindex]
  rw [fieldAt, toNat_shiftRight_of_lt (by rwa [hshift]), hshift]

theorem fieldAt_packFields {fields : List UInt32} (h : FieldsFit width fields) {index : Nat}
    (hindex : index < fields.length) :
    (fieldAt width (packFields width fields) index).toNat % 2 ^ width.toNat =
      fields[index].toNat := by
  have hshift : width.toNat * index < 32 := by
    by_cases hzero : width.toNat = 0
    · simp [hzero]
    · have hlt : width.toNat * index < width.toNat * fields.length :=
        Nat.mul_lt_mul_of_pos_left hindex (Nat.pos_of_ne_zero hzero)
      exact Nat.lt_of_lt_of_le hlt h.room
  rw [toNat_fieldAt hshift]
  induction fields generalizing index with
  | nil =>
      simp at hindex
  | cons field fields ih =>
      have hfield : field.toNat < 2 ^ width.toNat := h.field_lt field List.mem_cons_self
      rw [toNat_packFields_cons h]
      cases index with
      | zero =>
          rw [Nat.mul_zero, Nat.pow_zero, Nat.div_one, Nat.mul_add_mod', Nat.mod_eq_of_lt hfield]
          rfl
      | succ index =>
          have hpow : 2 ^ (width.toNat * (index + 1)) =
              2 ^ width.toNat * 2 ^ (width.toNat * index) := by
            rw [Nat.mul_succ, Nat.add_comm, Nat.pow_add]
          -- Without its lowest field the word is the word of the other fields.
          have hdrop : ((packFields width fields).toNat * 2 ^ width.toNat + field.toNat) /
              2 ^ width.toNat = (packFields width fields).toNat := by
            rw [Nat.add_comm, Nat.add_mul_div_right _ _ (Nat.two_pow_pos _),
              Nat.div_eq_of_lt hfield, Nat.zero_add]
          rw [hpow, ← Nat.div_div_eq_div_mul, hdrop]
          exact ih h.tail (by simpa using hindex) (by rw [Nat.mul_succ] at hshift; omega)

/-- Fields that were read off a number are packed to the part of it that they cover. -/
theorem toNat_packFields_of_read {fields : List UInt32} (h : FieldsFit width fields) (word : Nat)
    (hread : ∀ (i : Nat) (hi : i < fields.length),
      fields[i].toNat = word / 2 ^ (width.toNat * i) % 2 ^ width.toNat) :
    (packFields width fields).toNat = word % 2 ^ (width.toNat * fields.length) := by
  induction fields generalizing word with
  | nil =>
      simp [packFields, Nat.mod_one]
  | cons field fields ih =>
      have hfirst : field.toNat = word % 2 ^ width.toNat := by
        have hzero := hread 0 (Nat.zero_lt_succ _)
        rwa [Nat.mul_zero, Nat.pow_zero, Nat.div_one] at hzero
      -- The fields above the lowest one are read off the number without it.
      have hrest := ih h.tail (word / 2 ^ width.toNat) fun i hi => by
        have hpow : 2 ^ (width.toNat * (i + 1)) = 2 ^ width.toNat * 2 ^ (width.toNat * i) := by
          rw [Nat.mul_succ, Nat.add_comm, Nat.pow_add]
        rw [Nat.div_div_eq_div_mul, ← hpow]
        exact hread (i + 1) (Nat.succ_lt_succ hi)
      rw [toNat_packFields_cons h, hrest, hfirst, List.length_cons, Nat.mul_succ,
        Nat.add_comm (width.toNat * _), Nat.pow_add, Nat.mod_mul, Nat.mul_comm, Nat.add_comm]

end ManyFields
end TileRules
