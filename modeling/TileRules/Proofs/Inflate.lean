import TileRules.Deflate.Inflate
import TileRules.Proofs.Attempts

/-!
# Inflate — bytes behind the data, and fuel to spare

A reader of deflated data never looks behind the data: what it reads from some bytes it also reads
when more bytes follow, and it leaves those untouched. Fuel that was enough stays enough when there
is more of it. Both facts are one relation between readings, and it passes through every part of
`inflate`.

- `Ahead` is the relation, and `Ahead.bind` composes it along two steps;
- `ahead_inflateSymbols`, `ahead_readLengths` and `ahead_inflateBlocks` are the loops with fuel,
  each by induction on it;
- `inflate_append`: data that inflates does so in front of any other bytes.
-/

namespace TileRules
namespace Deflate

/-! ## The relation -/

/-- The same position in a stream that goes on behind its last byte. -/
def BitCursor.followedBy (c : BitCursor) (tail : List UInt8) : BitCursor :=
  ⟨c.pending, c.rest ++ tail⟩

/-- What the first reading gives, the second one gives too, with the tail still ahead of it. -/
def Ahead {α : Type} (tail : List UInt8) (r s : Except Fault (α × BitCursor)) : Prop :=
  ∀ (a : α) (c : BitCursor), r = .ok (a, c) → s = .ok (a, c.followedBy tail)

section

variable {α β : Type} {tail : List UInt8}

namespace Ahead

theorem ok (a : α) (c : BitCursor) : Ahead tail (.ok (a, c)) (.ok (a, c.followedBy tail)) := by
  intro b d h
  cases h
  rfl

theorem error (e : Fault) (s : Except Fault (α × BitCursor)) : Ahead tail (.error e) s := by
  intro a c h
  cases h

/-- Two steps, where what the first one reads decides on the second one. -/
theorem bind {r s : Except Fault (α × BitCursor)}
    {f g : α × BitCursor → Except Fault (β × BitCursor)}
    (hfirst : Ahead tail r s) (hsecond : ∀ a c, Ahead tail (f (a, c)) (g (a, c.followedBy tail))) :
    Ahead tail (r >>= f) (s >>= g) := by
  intro b c' h
  obtain ⟨⟨a, c⟩, hr, hf⟩ := bind_eq_ok.1 h
  rw [bind_of_ok (hfirst a c hr)]
  exact hsecond a c b c' hf

/-- One question that both readings answer alike. -/
theorem ite {p : Prop} [Decidable p] {r r' s s' : Except Fault (α × BitCursor)}
    (hthen : p → Ahead tail r s) (helse : ¬ p → Ahead tail r' s') :
    Ahead tail (if p then r else r') (if p then s else s') := by
  by_cases h : p
  · rw [if_pos h, if_pos h]
    exact hthen h
  · rw [if_neg h, if_neg h]
    exact helse h

end Ahead

/-! ## Bits -/

theorem ahead_bit (c : BitCursor) : Ahead tail c.bit (c.followedBy tail).bit := by
  obtain ⟨pending, rest⟩ := c
  cases pending with
  | cons b pending =>
      exact Ahead.ok b _
  | nil =>
      cases rest with
      | nil =>
          exact Ahead.error _ _
      | cons byte rest =>
          exact Ahead.ok _ _

theorem ahead_bits (count : Nat) (c : BitCursor) :
    Ahead tail (c.bits count) ((c.followedBy tail).bits count) := by
  induction count generalizing c with
  | zero =>
      exact Ahead.ok 0 c
  | succ count ih =>
      rw [BitCursor.bits, BitCursor.bits]
      refine (ahead_bit c).bind fun low c => ?_
      refine (ih c).bind fun high c => ?_
      exact Ahead.ok _ c

theorem ahead_read (tree : CodeTree) (c : BitCursor) :
    Ahead tail (tree.read c) (tree.read (c.followedBy tail)) := by
  induction tree generalizing c with
  | gap =>
      exact Ahead.error _ _
  | leaf symbol =>
      exact Ahead.ok symbol c
  | branch zero one hzero hone =>
      rw [CodeTree.read, CodeTree.read]
      refine (ahead_bit c).bind fun b c => ?_
      cases b with
      | false => exact hzero c
      | true => exact hone c

/-! ## Stored blocks -/

theorem takeBytes_append {out out' : Array UInt8} {count : Nat} {bytes rest : List UInt8}
    (h : takeBytes out count bytes = .ok (out', rest)) (tail : List UInt8) :
    takeBytes out count (bytes ++ tail) = .ok (out', rest ++ tail) := by
  induction count generalizing out bytes with
  | zero =>
      rw [takeBytes] at h
      cases h
      rw [takeBytes]
  | succ count ih =>
      cases bytes with
      | nil =>
          cases h
      | cons byte bytes =>
          exact ih h

theorem ahead_inflateStored (out : Array UInt8) (c : BitCursor) :
    Ahead tail (inflateStored out c) (inflateStored out (c.followedBy tail)) := by
  rw [inflateStored, inflateStored]
  refine (ahead_bits 16 c.align).bind fun length c => ?_
  refine (ahead_bits 16 c).bind fun complement c => ?_
  refine Ahead.ite (fun _ => ?_) (fun _ => Ahead.error _ _)
  intro out' c' h
  obtain ⟨⟨taken, rest⟩, htake, hdone⟩ := bind_eq_ok.1 h
  rw [BitCursor.followedBy, bind_of_ok (takeBytes_append htake tail)]
  cases hdone
  rfl

/-! ## Coded blocks -/

theorem ahead_readExtended (symbols : List (Nat × Nat)) (index : Nat) (c : BitCursor) :
    Ahead tail (readExtended symbols index c) (readExtended symbols index (c.followedBy tail)) := by
  rw [readExtended, readExtended]
  cases symbols[index]? with
  | none =>
      exact Ahead.error _ _
  | some entry =>
      refine (ahead_bits entry.2 c).bind fun above c => ?_
      exact Ahead.ok _ c

theorem ahead_inflateSymbols (literals distances : CodeTree) {fuel more : Nat}
    (hfuel : fuel ≤ more) (out : Array UInt8) (c : BitCursor) :
    Ahead tail (inflateSymbols literals distances fuel out c)
      (inflateSymbols literals distances more out (c.followedBy tail)) := by
  induction fuel generalizing more out c with
  | zero =>
      exact Ahead.error _ _
  | succ fuel ih =>
      obtain ⟨more, rfl⟩ : ∃ n, more = n + 1 := ⟨more - 1, by omega⟩
      have hless : fuel ≤ more := Nat.le_of_succ_le_succ hfuel
      rw [inflateSymbols, inflateSymbols]
      -- Both loops have spent one unit of fuel on this symbol.
      refine (ahead_read literals c).bind fun symbol c => ?_
      refine Ahead.ite (fun _ => ih hless _ c) (fun _ => ?_)
      refine Ahead.ite (fun _ => Ahead.ok out c) (fun _ => ?_)
      refine (ahead_readExtended lengthSymbols (symbol - 257) c).bind fun length c => ?_
      refine (ahead_read distances c).bind fun index c => ?_
      refine (ahead_readExtended distanceSymbols index c).bind fun distance c => ?_
      exact ih hless _ c

/-! ## Codes of a block -/

theorem ahead_readTriples (count : Nat) (c : BitCursor) :
    Ahead tail (readTriples count c) (readTriples count (c.followedBy tail)) := by
  induction count generalizing c with
  | zero =>
      exact Ahead.ok [] c
  | succ count ih =>
      rw [readTriples, readTriples]
      refine (ahead_bits 3 c).bind fun length c => ?_
      refine (ih c).bind fun lengths c => ?_
      exact Ahead.ok _ c

theorem ahead_readLengths (tree : CodeTree) (total fuel : Nat) (found : List Nat) (c : BitCursor) :
    Ahead tail (readLengths tree total fuel found c)
      (readLengths tree total fuel found (c.followedBy tail)) := by
  induction fuel generalizing found c with
  | zero =>
      exact Ahead.error _ _
  | succ fuel ih =>
      rw [readLengths, readLengths]
      refine Ahead.ite (fun _ => Ahead.error _ _) (fun _ => ?_)
      refine Ahead.ite (fun _ => Ahead.ok _ c) (fun _ => ?_)
      refine (ahead_read tree c).bind fun symbol c => ?_
      dsimp only
      -- The symbols that repeat read a count, and every other symbol is a length itself.
      split
      · exact Ahead.error _ _
      · exact (ahead_bits 2 c).bind fun extra c => ih _ c
      · exact (ahead_bits 3 c).bind fun extra c => ih _ c
      · exact (ahead_bits 7 c).bind fun extra c => ih _ c
      · exact ih _ c

/-- A step that reads nothing. -/
theorem ahead_orCorrupt (tree? : Option CodeTree) {f : CodeTree → Except Fault (α × BitCursor)}
    {g : CodeTree → Except Fault (α × BitCursor)} (h : ∀ tree, Ahead tail (f tree) (g tree)) :
    Ahead tail (orCorrupt tree? >>= f) (orCorrupt tree? >>= g) := by
  cases tree? with
  | none =>
      exact Ahead.error _ _
  | some tree =>
      exact h tree

theorem ahead_readCodes (c : BitCursor) :
    Ahead tail (readCodes c) (readCodes (c.followedBy tail)) := by
  rw [readCodes, readCodes]
  refine (ahead_bits 5 c).bind fun literals c => ?_
  refine (ahead_bits 5 c).bind fun distances c => ?_
  refine (ahead_bits 4 c).bind fun lengths c => ?_
  refine Ahead.ite (fun _ => Ahead.error _ _) (fun _ => ?_)
  refine (ahead_readTriples (lengths + 4) c).bind fun given c => ?_
  refine ahead_orCorrupt _ fun lengthTree => ?_
  refine (ahead_readLengths lengthTree _ _ [] c).bind fun all c => ?_
  refine ahead_orCorrupt _ fun literalTree => ?_
  refine ahead_orCorrupt _ fun distanceTree => ?_
  exact Ahead.ok _ c

/-! ## Blocks -/

theorem ahead_inflateBlock {fuel more : Nat} (hfuel : fuel ≤ more) (out : Array UInt8)
    (c : BitCursor) :
    Ahead tail (inflateBlock fuel out c) (inflateBlock more out (c.followedBy tail)) := by
  rw [inflateBlock, inflateBlock]
  refine (ahead_bits 2 c).bind fun kind c => ?_
  match kind with
  | 0 => exact ahead_inflateStored out c
  | 1 => exact ahead_inflateSymbols fixedCodes.1 fixedCodes.2 hfuel out c
  | 2 =>
      refine (ahead_readCodes c).bind fun codes c => ?_
      exact ahead_inflateSymbols codes.1 codes.2 hfuel out c
  | _ + 3 => exact Ahead.error _ _

theorem ahead_inflateBlocks {symbolFuel symbolMore fuel more : Nat}
    (hsymbols : symbolFuel ≤ symbolMore) (hfuel : fuel ≤ more) (out : Array UInt8) (c : BitCursor) :
    Ahead tail (inflateBlocks symbolFuel fuel out c)
      (inflateBlocks symbolMore more out (c.followedBy tail)) := by
  induction fuel generalizing more out c with
  | zero =>
      exact Ahead.error _ _
  | succ fuel ih =>
      obtain ⟨more, rfl⟩ : ∃ n, more = n + 1 := ⟨more - 1, by omega⟩
      have hless : fuel ≤ more := Nat.le_of_succ_le_succ hfuel
      rw [inflateBlocks, inflateBlocks]
      refine (ahead_bit c).bind fun isLast c => ?_
      refine (ahead_inflateBlock hsymbols out c).bind fun out c => ?_
      exact Ahead.ite (fun _ => Ahead.ok out c) (fun _ => ih hless out c)

theorem inflate_append {data bytes rest : List UInt8} (h : inflate data = .ok (bytes, rest))
    (tail : List UInt8) : inflate (data ++ tail) = .ok (bytes, rest ++ tail) := by
  -- Longer data also brings more fuel.
  have hfuel : 8 * data.length + 1 ≤ 8 * (data ++ tail).length + 1 := by
    rw [List.length_append]
    omega
  rw [inflate] at h ⊢
  obtain ⟨⟨out, c⟩, hblocks, hdone⟩ := bind_eq_ok.1 h
  have hlonger : inflateBlocks _ _ #[] (BitCursor.ofBytes (data ++ tail)) =
      .ok (out, c.followedBy tail) :=
    ahead_inflateBlocks hfuel hfuel #[] (BitCursor.ofBytes data) out c hblocks
  rw [bind_of_ok hlonger]
  cases hdone
  rfl

end

end Deflate
end TileRules
