import TileRules.Proofs.Documents
import TileRules.Proofs.Row

/-!
# Overflow — leaves that are wider than their slot

A row has nine bits for a leaf. The constructors of leaves keep to them, but a leaf that was read
from a document has any sixteen bits, and packing lays it into its word without a mask. What stands
above its nine bits then falls into the next slot of the word, on top of the leaf there; only the
first slot of every word is safe.

- `testBit_packFields_cons` says where a bit of a packed word comes from, however wide the fields
  are;
- `Leaf.ofBits_fieldAt_packFields`: a slot reads as its leaf together with the overflow of the leaf
  before it;
- `Row.get_leaves_pack` is this for a whole row, and `packed_slot_keeps_its_leaf_iff` says which
  slots keep their own leaf.
-/

namespace TileRules

open Layout

/-! ## Bits of packed words -/

/-- A bit of a packed word belongs to the first field or to the fields above it, or to both. -/
theorem testBit_packFields_cons {width : UInt32} (hwidth : width.toNat < 32) (field : UInt32)
    (fields : List UInt32) {k : Nat} (hk : k < 32) :
    (packFields width (field :: fields)).toNat.testBit k =
      (field.toNat.testBit k ||
        (decide (width.toNat ≤ k) && (packFields width fields).toNat.testBit (k - width.toNat))) := by
  show ((packFields width fields <<< width) ||| field).toNat.testBit k = _
  rw [UInt32.toNat_or, Nat.testBit_or, UInt32.toNat_shiftLeft, Nat.mod_eq_of_lt hwidth,
    Nat.testBit_mod_two_pow, Nat.testBit_shiftLeft, Bool.or_comm]
  simp [hk]

theorem testBit_fieldAt {width word : UInt32} {index : Nat} (h : width.toNat * index < 32)
    (k : Nat) :
    (fieldAt width word index).toNat.testBit k = word.toNat.testBit (k + width.toNat * index) := by
  rw [toNat_fieldAt h, Nat.testBit_div_two_pow]

/-! ## Leaves of sixteen bits -/

namespace Leaf

/-- What a leaf has above its nine bits. -/
def overflow (l : Leaf) : UInt32 :=
  l.bits >>> leafBits

theorem testBit_bits_of_ge (l : Leaf) {k : Nat} (hk : 16 ≤ k) : l.bits.toNat.testBit k = false := by
  apply Nat.testBit_lt_two_pow
  rw [bits, UInt16.toNat_toUInt32]
  exact Nat.lt_of_lt_of_le l.raw.toNat_lt (Nat.pow_le_pow_right (by decide) hk)

theorem testBit_overflow (l : Leaf) (k : Nat) :
    l.overflow.toNat.testBit k = l.bits.toNat.testBit (k + 9) := by
  rw [overflow, toNat_shiftRight_of_lt (by decide), Nat.testBit_div_two_pow]
  rfl

/-- Two words read as the same leaf if their low nine bits agree. -/
theorem ofBits_eq_iff {word other : UInt32} :
    ofBits word = ofBits other ↔ ∀ k < 9, word.toNat.testBit k = other.toNat.testBit k := by
  have hread : ∀ (w : UInt32), ∀ k < 9, (ofBits w).bits.toNat.testBit k = w.toNat.testBit k := by
    intro w k hk
    rw [toNat_bits_ofBits, show (512 : Nat) = 2 ^ 9 from rfl, Nat.testBit_mod_two_pow,
      decide_eq_true hk, Bool.true_and]
  constructor
  · intro h k hk
    rw [← hread word k hk, ← hread other k hk, h]
  · intro h
    refine ofBits_of_toNat ?_
    rw [toNat_bits_ofBits]
    apply Nat.eq_of_testBit_eq
    intro k
    rw [show (512 : Nat) = 2 ^ 9 from rfl, Nat.testBit_mod_two_pow, Nat.testBit_mod_two_pow]
    by_cases hk : k < 9
    · rw [h k hk]
    · simp [hk]

/-- What falls into a slot of a word from the leaf before it. -/
def overflowInto (leaves : List Leaf) : (index : Nat) → UInt32
  | 0 => 0
  | index + 1 => (leaves[index]?.getD ⟨0⟩).overflow

/-- Of three leaves in a word, none reaches further than into the next slot. -/
theorem testBit_packFields {leaves : List Leaf} {index k : Nat} (hk : k < 9)
    (hindex : index < leaves.length) (hroom : 9 * index + k < 32) :
    (packFields leafBits (leaves.map bits)).toNat.testBit (k + 9 * index) =
      (leaves[index].bits ||| overflowInto leaves index).toNat.testBit k := by
  induction leaves generalizing index with
  | nil =>
      exact absurd hindex (Nat.not_lt_zero _)
  | cons l leaves ih =>
      rw [List.map_cons, testBit_packFields_cons (by decide) _ _ (by omega),
        show leafBits.toNat = 9 from rfl]
      cases index with
      | zero =>
          have hbelow : ¬ 9 ≤ k := by omega
          simp [hbelow, overflowInto]
      | succ index =>
          have habove : 9 ≤ k + 9 * (index + 1) := by omega
          have hless : k + 9 * (index + 1) - 9 = k + 9 * index := by omega
          have hinside : index < leaves.length := Nat.lt_of_succ_lt_succ hindex
          rw [hless, ih hinside (by omega), UInt32.toNat_or, Nat.testBit_or, UInt32.toNat_or,
            Nat.testBit_or, List.getElem_cons_succ]
          simp only [habove, decide_true, Bool.true_and]
          cases index with
          | zero =>
              -- The first leaf overflows into the second slot.
              rw [show overflowInto (l :: leaves) (0 + 1) = l.overflow from rfl, testBit_overflow]
              simp [overflowInto, Bool.or_comm]
          | succ index =>
              rw [testBit_bits_of_ge l (by omega), Bool.false_or]
              rfl

/-- A slot reads as its leaf together with the overflow of the leaf before it. -/
theorem ofBits_fieldAt_packFields {leaves : List Leaf} (hroom : leaves.length ≤ 3) (index : Nat)
    (hindex : index < leaves.length) :
    ofBits (fieldAt leafBits (packFields leafBits (leaves.map bits)) index) =
      ofBits (leaves[index].bits ||| overflowInto leaves index) := by
  refine ofBits_eq_iff.2 fun k hk => ?_
  rw [testBit_fieldAt (by rw [show leafBits.toNat = 9 from rfl]; omega)]
  exact testBit_packFields hk hindex (by omega)

/-- The overflow of another leaf counts for nothing if its bits are set already. -/
theorem ofBits_or_overflow_eq_iff {l other : Leaf} :
    ofBits (l.bits ||| other.overflow) = ofBits l.bits ↔ l.bits ||| other.overflow = l.bits := by
  refine ⟨fun h => ?_, fun h => by rw [h]⟩
  apply UInt32.toNat_inj.1
  apply Nat.eq_of_testBit_eq
  intro k
  by_cases hk : k < 9
  · exact ofBits_eq_iff.1 h k hk
  · rw [UInt32.toNat_or, Nat.testBit_or, testBit_overflow, testBit_bits_of_ge other (by omega),
      Bool.or_false]

end Leaf

/-! ## Rows -/

/-- What falls into a slot of the packed row from the leaf before it; the slots 0, 3 and 6 stand
first in their words. -/
def Flat.carry (f : Flat) (slot : Fin 8) : UInt32 :=
  if slot.val % 3 = 0 then 0 else (f.leaves[slot.val - 1]).overflow

theorem Row.get_leaves_pack (f : Flat) (value : Int) (slot : Fin 8) :
    (f.pack value).leaves.get slot = Leaf.ofBits ((f.leaves.get slot).bits ||| f.carry slot) := by
  have hword : ∀ slots : List (Fin 8), slots.length ≤ 3 →
      ∀ (index : Nat) (hindex : index < (slots.map f.leaves.get).length),
        Leaf.ofBits (fieldAt leafBits
            (packFields leafBits ((slots.map f.leaves.get).map Leaf.bits)) index) =
          Leaf.ofBits ((slots.map f.leaves.get)[index].bits |||
            Leaf.overflowInto (slots.map f.leaves.get) index) := by
    intro slots hroom index hindex
    exact Leaf.ofBits_fieldAt_packFields (by rwa [List.length_map]) index hindex
  match slot with
  | 0 => exact hword [0, 1, 2] (by decide) 0 (by simp)
  | 1 => exact hword [0, 1, 2] (by decide) 1 (by simp)
  | 2 => exact hword [0, 1, 2] (by decide) 2 (by simp)
  | 3 => exact hword [3, 4, 5] (by decide) 0 (by simp)
  | 4 => exact hword [3, 4, 5] (by decide) 1 (by simp)
  | 5 => exact hword [3, 4, 5] (by decide) 2 (by simp)
  | 6 => exact hword [6, 7] (by decide) 0 (by simp)
  | 7 => exact hword [6, 7] (by decide) 1 (by simp)

theorem Leaf.Fits.overflow {l : Leaf} (h : l.Fits) : l.overflow = 0 := by
  apply UInt32.toNat_inj.1
  rw [Leaf.overflow, toNat_shiftRight_of_lt (by decide), bits, UInt16.toNat_toUInt32]
  exact Nat.div_eq_of_lt (UInt16.lt_iff_toNat_lt.1 h)

theorem Flat.carry_eq_zero {f : Flat} {slot : Fin 8}
    (h : slot.val % 3 = 0 ∨ (f.leaves[slot.val - 1]).Fits) : f.carry slot = 0 := by
  rw [carry]
  split
  · rfl
  · rename_i hnext
    exact (h.resolve_left hnext).overflow

/-- A slot keeps its own leaf if and only if what falls into it is set in the leaf already, as
nothing is where the slot stands first in its word or the leaf before it has nine bits. -/
theorem packed_slot_keeps_its_leaf_iff :
    ∀ (text : String) (f : Flat), Document.ofText text = .ok f → ∀ (value : Int) (slot : Fin 8),
      (f.pack value).leaves.get slot = Leaf.ofBits ((f.leaves.get slot).bits ||| f.carry slot) ∧
      ((f.pack value).leaves.get slot = Leaf.ofBits (f.leaves.get slot).bits ↔
        (f.leaves.get slot).bits ||| f.carry slot = (f.leaves.get slot).bits) ∧
      (slot.val % 3 = 0 ∨ (f.leaves[slot.val - 1]).Fits →
        (f.pack value).leaves.get slot = Leaf.ofBits (f.leaves.get slot).bits) := by
  intro text f _ value slot
  rw [Row.get_leaves_pack]
  refine ⟨rfl, ?_, fun h => ?_⟩
  · by_cases hfirst : slot.val % 3 = 0
    · rw [Flat.carry_eq_zero (.inl hfirst), UInt32.or_zero]
      exact ⟨fun _ => rfl, fun _ => rfl⟩
    · rw [Flat.carry, if_neg hfirst]
      exact Leaf.ofBits_or_overflow_eq_iff
  · rw [Flat.carry_eq_zero h, UInt32.or_zero]

/-- Every leaf says that there is water to the north, and the first one has a tenth bit. -/
def wideFlat : Flat :=
  { modes := Vector.replicate 7 .and
    leaves := #v[⟨528⟩, ⟨16⟩, ⟨16⟩, ⟨16⟩, ⟨16⟩, ⟨16⟩, ⟨16⟩, ⟨16⟩]
    truncated := 0 }

theorem ofText_wideFlat : Document.ofText (Document.toText wideFlat) = .ok wideFlat := by
  have hsized : wideFlat.Sized := show (0 : Nat) < UInt64.size by decide
  exact (lossless_flat hsized).ofText_toText

theorem wideFlat_keeps_all_but_one :
    Document.ofText (Document.toText wideFlat) = .ok wideFlat ∧
      ∀ slot : Fin 8,
        (wideFlat.pack 0).leaves.get slot = Leaf.ofBits (wideFlat.leaves.get slot).bits ↔
          slot ≠ 1 := by
  refine ⟨ofText_wideFlat, fun slot => ?_⟩
  obtain ⟨_, hkeeps, _⟩ := packed_slot_keeps_its_leaf_iff _ _ ofText_wideFlat 0 slot
  rw [hkeeps]
  revert slot
  decide

/-- The cell that the second leaf speaks of is one ring further away than it was. -/
theorem wide_leaf_changes_its_neighbour :
    ∃ (text : String) (f : Flat), Document.ofText text = .ok f ∧
      (f.pack 0).leaves.get 1 = Leaf.ofParts 1 0 2 ∧
        Leaf.ofBits (f.leaves.get 1).bits = Leaf.ofParts 1 0 1 ∧
          (f.pack 0).leaves.get 1 ≠ Leaf.ofBits (f.leaves.get 1).bits :=
  ⟨_, wideFlat, ofText_wideFlat, by decide, by decide, by decide⟩

end TileRules
