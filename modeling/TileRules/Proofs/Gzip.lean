import TileRules.Gzip
import TileRules.Proofs.Stored

/-!
# Gzip — a member gives back its bytes

A member is written with a plain header, deflated bytes and a trailer over these bytes. Whatever
the search for stretches proposes, reading the member gives back the bytes.

- `Deflate.inflate_deflate`: deflated bytes inflate in front of anything;
- `Gzip.decode_encode`: reading a member undoes writing it;
- `Gzip.LawfulPacker` is what a reader relies on, whatever it was that packed the bytes;
- `Gzip.decode_of_method`: a file with another method than deflating is no member.
-/

namespace TileRules

namespace Deflate

theorem inflate_of_givesBack {data bytes : List UInt8} (h : givesBack data bytes = true) :
    inflate data = .ok (bytes, []) := by
  rw [givesBack] at h
  cases hread : inflate data with
  | error e =>
      rw [hread] at h
      cases h
  | ok found =>
      obtain ⟨out, rest⟩ := found
      simp only [hread, Bool.and_eq_true, beq_iff_eq, List.isEmpty_iff] at h
      rw [h.1, h.2]

theorem inflate_deflate (bytes rest : List UInt8) :
    inflate (deflate bytes ++ rest) = .ok (bytes, rest) := by
  rw [deflate]
  -- A coded block was inflated when it was made, and stored blocks always inflate.
  split
  · rename_i hcoded
    exact inflate_append (inflate_of_givesBack hcoded) rest
  · exact inflate_stored bytes rest

end Deflate

namespace Gzip

theorem readHeader_plain (rest : List UInt8) : readHeader (plainHeader ++ rest) = .ok rest :=
  rfl

theorem checkTrailer_trailer (bytes : List UInt8) :
    checkTrailer bytes (trailer bytes) = .ok () := by
  have hlength : ¬ (trailer bytes).length < 8 := Nat.lt_irrefl 8
  have hall : (trailer bytes).take 8 = trailer bytes := rfl
  rw [checkTrailer, if_neg hlength, if_pos hall]

theorem decode_encode (bytes : List UInt8) : decode (encode bytes) = .ok bytes := by
  have hinflate : (Deflate.inflate (Deflate.deflate bytes ++ trailer bytes)).mapError
      Fault.ofDeflate = .ok (bytes, trailer bytes) := by
    rw [Deflate.inflate_deflate]
    rfl
  rw [decode, encode, List.append_assoc, bind_of_ok (readHeader_plain _),
    bind_of_ok hinflate]
  dsimp only
  rw [bind_of_ok (checkTrailer_trailer bytes)]
  rfl

theorem isMember_encode (bytes : List UInt8) : isMember (encode bytes) = true :=
  rfl

/-- What is packed is a member, and reading the member gives the bytes back. -/
class LawfulPacker [Packer] : Prop where
  isMember_pack : ∀ bytes, isMember (Packer.pack bytes) = true
  decode_pack : ∀ bytes, decode (Packer.pack bytes) = .ok bytes

instance lawfulPacker : LawfulPacker where
  isMember_pack := isMember_encode
  decode_pack := decode_encode

/-- Only deflated data is read. -/
theorem decode_of_method {magic magic' method flags : UInt8} {rest : List UInt8}
    (hmethod : method ≠ 8) (hlength : 6 ≤ rest.length) :
    decode (magic :: magic' :: method :: flags :: rest) = .error .header := by
  match rest, hlength with
  | _ :: _ :: _ :: _ :: _ :: _ :: rest, _ =>
      rw [decode, readHeader, if_pos (Or.inr (Or.inr (Or.inl hmethod)))]
      rfl

end Gzip
end TileRules
