import Mathlib.Algebra.Group.Nat.Defs
import TileRules.Deflate.Stored
import TileRules.Proofs.Inflate

/-!
# Stored — stored blocks read back

Deflating without compression splits the bytes into blocks of at most 65535 bytes. Reading them back
gives the bytes, whatever they are, and stops right behind the last block.

- `bits_byte` and `bits_add` read whole bytes as numbers;
- `inflateBlocks_storedBlock` reads one block, and `inflateBlocks_storedBlocks` reads all of them,
  by induction on the blocks before the last one;
- `inflate_stored` is the result for `stored`.
-/

namespace TileRules
namespace Deflate

/-! ## Whole bytes -/

/-- The number of these bits, the lowest first. -/
def numberOf (bits : List Bool) : Nat :=
  bits.foldr (fun b value => b.toNat + 2 * value) 0

theorem lowBits_succ (count n : Nat) :
    lowBits (count + 1) n = n.testBit 0 :: lowBits count (n / 2) := by
  rw [lowBits, lowBits, List.range_succ_eq_map, List.map_cons, List.map_map]
  congr 1
  apply List.map_congr_left
  intro i _
  exact Nat.testBit_succ n i

theorem numberOf_lowBits (count n : Nat) : numberOf (lowBits count n) = n % 2 ^ count := by
  induction count generalizing n with
  | zero =>
      rw [Nat.pow_zero, Nat.mod_one]
      rfl
  | succ count ih =>
      rw [lowBits_succ]
      show (n.testBit 0).toNat + 2 * numberOf (lowBits count (n / 2)) = _
      rw [ih, Nat.toNat_testBit, Nat.pow_zero, Nat.div_one, Nat.pow_succ', Nat.mod_mul]

theorem bits_pending (bits more : List Bool) (rest : List UInt8) :
    (BitCursor.mk (bits ++ more) rest).bits bits.length =
      .ok (numberOf bits, ⟨more, rest⟩) := by
  induction bits with
  | nil =>
      rfl
  | cons b bits ih =>
      have hbit : (BitCursor.mk (b :: (bits ++ more)) rest).bit = .ok (b, ⟨bits ++ more, rest⟩) :=
        rfl
      rw [List.cons_append, List.length_cons, BitCursor.bits, bind_of_ok hbit]
      dsimp only
      rw [bind_of_ok ih]
      rfl

theorem bits_byte (byte : UInt8) (rest : List UInt8) :
    (BitCursor.ofBytes (byte :: rest)).bits 8 = .ok (byte.toNat, BitCursor.ofBytes rest) := by
  have hbits := bits_pending (lowBits 8 byte.toNat) [] rest
  have hnumber : byte.toNat % 2 ^ 8 = byte.toNat := Nat.mod_eq_of_lt byte.toNat_lt
  rw [numberOf_lowBits, hnumber] at hbits
  exact hbits

theorem bits_add {c c' c'' : BitCursor} {m n low high : Nat} (hlow : c.bits m = .ok (low, c'))
    (hhigh : c'.bits n = .ok (high, c'')) : c.bits (m + n) = .ok (low + 2 ^ m * high, c'') := by
  induction m generalizing c low with
  | zero =>
      cases hlow
      rw [Nat.zero_add, hhigh, Nat.pow_zero, Nat.one_mul, Nat.zero_add]
  | succ m ih =>
      rw [BitCursor.bits] at hlow
      rw [Nat.succ_add, BitCursor.bits]
      obtain ⟨⟨b, middle⟩, hbit, hrest⟩ := bind_eq_ok.1 hlow
      obtain ⟨⟨above, last⟩, habove, hdone⟩ := bind_eq_ok.1 hrest
      cases hdone
      rw [bind_of_ok hbit]
      dsimp only
      rw [bind_of_ok (ih habove), Nat.pow_succ', Nat.mul_assoc, Nat.add_assoc, ← Nat.mul_add]
      rfl

theorem bits_littleEndian16 {n : Nat} (h : n < 65536) (rest : List UInt8) :
    (BitCursor.ofBytes (littleEndian16 n ++ rest)).bits 16 = .ok (n, BitCursor.ofBytes rest) := by
  have hlow := bits_byte (UInt8.ofNat n) (UInt8.ofNat (n / 256) :: rest)
  have hhigh := bits_byte (UInt8.ofNat (n / 256)) rest
  have hboth := bits_add hlow hhigh
  have hnumber : (UInt8.ofNat n).toNat + 2 ^ 8 * (UInt8.ofNat (n / 256)).toNat = n := by
    rw [UInt8.toNat_ofNat', UInt8.toNat_ofNat']
    omega
  rw [hnumber] at hboth
  exact hboth

/-! ## Blocks -/

theorem takeBytes_all (out : Array UInt8) (bytes rest : List UInt8) :
    takeBytes out bytes.length (bytes ++ rest) = .ok (out ++ bytes.toArray, rest) := by
  induction bytes generalizing out with
  | nil =>
      simp [takeBytes]
  | cons byte bytes ih =>
      rw [List.length_cons, List.cons_append, takeBytes, ih]
      congr 2
      simp

theorem inflateStored_littleEndian16 (out : Array UInt8) {bytes : List UInt8}
    (h : bytes.length ≤ 65535) (pending : List Bool) (rest : List UInt8) :
    inflateStored out ⟨pending, littleEndian16 bytes.length ++
        (littleEndian16 (65535 - bytes.length) ++ (bytes ++ rest))⟩ =
      .ok (out ++ bytes.toArray, BitCursor.ofBytes rest) := by
  have hcount : bytes.length < 65536 := by omega
  have hother : 65535 - bytes.length < 65536 := by omega
  have hsum : bytes.length + (65535 - bytes.length) = 65535 := by omega
  rw [inflateStored, show BitCursor.align ⟨pending, _⟩ = BitCursor.ofBytes _ from rfl,
    bind_of_ok (bits_littleEndian16 hcount _)]
  dsimp only
  rw [bind_of_ok (bits_littleEndian16 hother _)]
  dsimp only [BitCursor.ofBytes]
  rw [if_pos hsum, bind_of_ok (takeBytes_all out bytes rest)]
  rfl

theorem bit_lastFlag (isLast : Bool) (rest : List UInt8) :
    (BitCursor.ofBytes ((if isLast then 1 else 0) :: rest)).bit =
      .ok (isLast, ⟨List.replicate 7 false, rest⟩) := by
  cases isLast <;> rfl

theorem inflateBlock_stored (symbolFuel : Nat) (out : Array UInt8) (rest : List UInt8) :
    inflateBlock symbolFuel out ⟨List.replicate 7 false, rest⟩ =
      inflateStored out ⟨List.replicate 5 false, rest⟩ :=
  rfl

/-- One block is read, and reading goes on behind it unless it is the last one. -/
theorem inflateBlocks_storedBlock (symbolFuel fuel : Nat) (isLast : Bool) (out : Array UInt8)
    {bytes : List UInt8} (h : bytes.length ≤ 65535) (rest : List UInt8) :
    inflateBlocks symbolFuel (fuel + 1) out (BitCursor.ofBytes (storedBlock isLast bytes ++ rest)) =
      if isLast then .ok (out ++ bytes.toArray, BitCursor.ofBytes rest)
      else inflateBlocks symbolFuel fuel (out ++ bytes.toArray) (BitCursor.ofBytes rest) := by
  simp only [storedBlock, List.cons_append, List.append_assoc]
  rw [inflateBlocks, bind_of_ok (bit_lastFlag isLast _)]
  dsimp only
  rw [inflateBlock_stored, bind_of_ok (inflateStored_littleEndian16 out h _ rest)]
  rfl

theorem inflateBlocks_storedBlocks (symbolFuel : Nat) {extra fuel : Nat} (hfuel : extra < fuel)
    (out : Array UInt8) {bytes : List UInt8} (hfull : 65535 * extra ≤ bytes.length)
    (hlast : bytes.length ≤ 65535 * (extra + 1)) (rest : List UInt8) :
    inflateBlocks symbolFuel fuel out (BitCursor.ofBytes (storedBlocks extra bytes ++ rest)) =
      .ok (out ++ bytes.toArray, BitCursor.ofBytes rest) := by
  obtain ⟨fuel, rfl⟩ : ∃ n, fuel = n + 1 := ⟨fuel - 1, by omega⟩
  induction extra generalizing fuel out bytes with
  | zero =>
      rw [storedBlocks, inflateBlocks_storedBlock symbolFuel fuel true out (by omega), if_pos rfl]
  | succ extra ih =>
      -- A block before the last one is full, and the bytes behind it need one block less.
      have hblock : (bytes.take 65535).length ≤ 65535 := by
        rw [List.length_take]
        omega
      have hsplit : out ++ (bytes.take 65535).toArray ++ (bytes.drop 65535).toArray =
          out ++ bytes.toArray := by
        rw [Array.append_assoc, List.append_toArray (bytes.take 65535),
          List.take_append_drop]
      obtain ⟨fuel, rfl⟩ : ∃ n, fuel = n + 1 := ⟨fuel - 1, by omega⟩
      rw [storedBlocks, List.append_assoc,
        inflateBlocks_storedBlock symbolFuel (fuel + 1) false out hblock, if_neg Bool.false_ne_true,
        ih _ (by rw [List.length_drop]; omega) (by rw [List.length_drop]; omega) fuel (by omega),
        hsplit]

theorem lt_length_storedBlocks (extra : Nat) (bytes : List UInt8) :
    extra < (storedBlocks extra bytes).length := by
  induction extra generalizing bytes with
  | zero =>
      exact Nat.succ_pos _
  | succ extra ih =>
      have hrest := ih (bytes.drop 65535)
      rw [storedBlocks, List.length_append, storedBlock, List.cons_append, List.cons_append,
        List.length_cons]
      omega

theorem inflate_stored (bytes rest : List UInt8) :
    inflate (stored bytes ++ rest) = .ok (bytes, rest) := by
  -- Every block takes at least one byte, so there is fuel for all of them.
  have hfuel : (bytes.length - 1) / 65535 < 8 * (stored bytes ++ rest).length + 1 := by
    have hblocks := lt_length_storedBlocks ((bytes.length - 1) / 65535) bytes
    rw [List.length_append, stored]
    omega
  have hread : inflateBlocks _ _ #[] (BitCursor.ofBytes (stored bytes ++ rest)) =
      .ok (#[] ++ bytes.toArray, BitCursor.ofBytes rest) :=
    inflateBlocks_storedBlocks (8 * (stored bytes ++ rest).length + 1) hfuel #[] (by omega)
      (by omega) rest
  rw [inflate, bind_of_ok hread, Array.empty_append]
  rfl

end Deflate
end TileRules
