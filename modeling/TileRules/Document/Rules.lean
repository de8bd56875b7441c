import TileRules.Document
import TileRules.RuleSet
import TileRules.Summary

/-!
# Documents of rules — tiles, leaves, rows and summaries

The members of an enumeration are documents by name, words and leaves by number, and records by
their fields. A leaf is read as any number of sixteen bits.
-/

namespace TileRules

open Json

instance : Document Tile where
  encode tile := .text tile.name
  decode := enumeration? Tile.all Tile.name

instance : Document Direction where
  encode direction := .text direction.name
  decode := enumeration? Direction.all Direction.name

instance : Document Mode where
  encode mode := .text mode.name
  decode := enumeration? Mode.all Mode.name

instance : Document DepthPolicy where
  encode policy := .text policy.name
  decode := enumeration? DepthPolicy.all DepthPolicy.name

instance : Document RuleSet where
  encode ruleSet := .text ruleSet.name
  decode := enumeration? RuleSet.all RuleSet.name

instance : Document Leaf where
  encode leaf := .nat leaf.raw.toNat
  decode j := (j.nat? (UInt16.size - 1)).map fun n => ⟨UInt16.ofNat n⟩

instance : Document UInt32 where
  encode word := .nat word.toNat
  decode := word?

instance : Document Row where
  encode row := Document.encode row.words
  decode j := (Document.decode j).map Row.ofWords

instance : Document Flat where
  encode flat := .ofFields
    [("modes", Document.encode flat.modes), ("leaves", Document.encode flat.leaves),
      ("truncated", .nat flat.truncated)]
  decode j := do
    let fields ← j.record? ["modes", "leaves", "truncated"]
    return {
      modes := ← fields.required "modes" Document.decode
      leaves := ← fields.required "leaves" Document.decode
      truncated := ← fields.required "truncated" size? }

instance : Document ConditionSummary where
  encode c := .ofFields
    [("row", .nat c.row), ("value", .int c.value), ("modes", Document.encode c.modes),
      ("leaves", Document.encode c.leaves)]
  decode j := do
    let fields ← j.record? ["row", "value", "modes", "leaves"]
    return {
      row := ← fields.required "row" size?
      value := ← fields.required "value" int32?
      modes := ← fields.required "modes" Document.decode
      leaves := ← fields.required "leaves" Document.decode }

instance : Document ReactionSummary where
  encode s := .ofFields
    [("tile", .nat s.tile.toNat), ("slot", .nat s.slot), ("result_tile", .nat s.resultTile.toNat),
      ("bias", .int s.bias), ("conditions", Document.encode s.conditions)]
  decode j := do
    let fields ← j.record? ["tile", "slot", "result_tile", "bias", "conditions"]
    return {
      tile := ← fields.required "tile" word?
      slot := ← fields.required "slot" size?
      resultTile := ← fields.required "result_tile" word?
      bias := ← fields.required "bias" int32?
      conditions := ← fields.required "conditions" Document.decode }

end TileRules
