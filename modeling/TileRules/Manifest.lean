import TileRules.Digest.Sha256
import TileRules.Document.Rules
import TileRules.Timestamp.Text

/-!
# Manifest — the description that goes with an exported table

A manifest records the shape of a table, the counts of its reactions, a checksum of its bytes, and
when it was written. The counts and the checksum are those of the table itself, whether its file is
compressed or not.

- `Manifest.describe` is the manifest of a table;
- `manifestPath` is where the manifest of a table file is kept.
-/

namespace TileRules

open Json

structure Manifest where
  width : Nat
  height : Nat
  byteOrder : String
  compressed : Bool
  /-- Registered reactions of each tile type. -/
  reactionCounts : List Nat
  totalReactions : Nat
  /-- SHA-256 of the uncompressed table bytes. -/
  sha256 : String
  configFingerprint : Option String
  createdAt : Timestamp
  deriving DecidableEq, Repr

/-- The manifest of a table that is written now. -/
def Manifest.describe (table : RuleTable) (compressed : Bool) (configFingerprint : Option String)
    (now : Timestamp) : Manifest :=
  { width := Layout.tableWidth
    height := Layout.tableHeight
    byteOrder := "little-endian"
    compressed
    reactionCounts := table.counts.toList
    totalReactions := table.totalReactions
    sha256 := checksum table.toBytes
    configFingerprint
    createdAt := now }

/-- The path of a table file with the ending of manifests behind it. -/
def manifestPath (tablePath : String) : String :=
  tablePath ++ ".manifest.json"

instance : Document Timestamp where
  encode t := .text t.text
  decode j := j.text?.bind Timestamp.ofText?

instance : Document Manifest where
  encode m := .ofFields
    [("width", .nat m.width), ("height", .nat m.height), ("byte_order", .text m.byteOrder),
      ("compressed", .bool m.compressed), ("reaction_counts", .array (m.reactionCounts.map .nat)),
      ("total_reactions", .nat m.totalReactions), ("sha256", .text m.sha256),
      ("config_fingerprint", m.configFingerprint.elim .null .text),
      ("created_at", Document.encode m.createdAt)]
  decode j := do
    let fields ← j.record?
      ["width", "height", "byte_order", "compressed", "reaction_counts", "total_reactions",
        "sha256", "config_fingerprint", "created_at"]
    return {
      width := ← fields.required "width" size?
      height := ← fields.required "height" size?
      byteOrder := ← fields.required "byte_order" Json.text?
      compressed := ← fields.required "compressed" Json.bool?
      reactionCounts := ← fields.required "reaction_counts" (list? size?)
      totalReactions := ← fields.required "total_reactions" size?
      sha256 := ← fields.required "sha256" Json.text?
      configFingerprint := ← fields.optional "config_fingerprint" optionalText? none
      createdAt := ← fields.required "created_at" Document.decode }

end TileRules
