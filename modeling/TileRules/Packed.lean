/-!
# Packed — equal fields of a machine word

Fields of one width are laid into a word from the low end upwards. A field is not masked before it
is laid in: one that is too wide reaches into its upper neighbours, and what leaves the word is
lost.

- `packFields` lays a list of fields into a word;
- `fieldAt` reads one of them back, without a mask.
-/

namespace TileRules

/-- Lays the fields into a word, the first one lowest. -/
def packFields (width : UInt32) (fields : List UInt32) : UInt32 :=
  fields.foldr (fun field above => (above <<< width) ||| field) 0

/-- The word from its field `index` upwards. -/
def fieldAt (width : UInt32) (word : UInt32) (index : Nat) : UInt32 :=
  word >>> (width * UInt32.ofNat index)

end TileRules
