import TileRules.Files
import TileRules.Manifest
import TileRules.Proofs.Document
import TileRules.Proofs.Import
import TileRules.Proofs.Json.Record

/-!
# Manifest — a written manifest is read back

A manifest whose numbers are sizes is the value of its own document, and the document that of its
own text: nothing of it is lost on the way into a file and out again.

- `FileSystem.fromUTF8?_textBytes`: the bytes of a text give the text back;
- `Manifest.decode_encode` and `Manifest.ofText_toText` are the two steps for a manifest, and
  `Manifest.sized_describe` holds of the manifests that are written.
-/

namespace TileRules

open Json

/-! ## Documents -/

theorem FileSystem.fromUTF8?_textBytes (text : String) :
    String.fromUTF8? ⟨(FileSystem.textBytes text).toArray⟩ = some text := by
  rw [FileSystem.textBytes, Array.toArray_toList, String.fromUTF8?]
  exact dif_pos text.isValidUTF8

theorem Timestamp.decode_encode (t : Timestamp) :
    Document.decode (Document.encode t) = some t := by
  change (Json.text? (.text t.text)).bind Timestamp.ofText? = some t
  rw [text?_text, Option.bind_some, Timestamp.ofText?_text]

/-! ## Manifests -/

namespace Manifest

/-- The numbers of a manifest are sizes. -/
structure Sized (m : Manifest) : Prop where
  width : m.width < UInt64.size
  height : m.height < UInt64.size
  reactionCounts : ∀ count ∈ m.reactionCounts, count < UInt64.size
  totalReactions : m.totalReactions < UInt64.size

variable {m : Manifest}

theorem written_encode (m : Manifest) : Written (Document.encode m) := by
  have hcounts : ∀ item ∈ m.reactionCounts.map Json.nat, Written item := by
    intro item hitem
    obtain ⟨count, _, rfl⟩ := List.mem_map.1 hitem
    exact written_nat count
  have hprint : Written (m.configFingerprint.elim .null .text) := by
    cases m.configFingerprint with
    | none => exact Written.null
    | some fingerprint => exact Written.text fingerprint
  refine Written.object ?_
  simp only [List.forall_mem_cons]
  exact ⟨written_nat _, written_nat _, Written.text _, Written.bool _, Written.array hcounts,
    written_nat _, Written.text _, hprint, Written.text _, fun _ h => absurd h List.not_mem_nil⟩

theorem decode_encode (h : m.Sized) : Document.decode (Document.encode m) = some m := by
  have hcounts : (Json.array (m.reactionCounts.map Json.nat)).list? size? = some m.reactionCounts :=
    list?_map fun count hcount => size?_nat (h.reactionCounts count hcount)
  have hprint : Json.optionalText? (m.configFingerprint.elim .null .text) =
      some m.configFingerprint := by
    cases m.configFingerprint <;> rfl
  have hrecord : (Document.encode m).record?
      ["width", "height", "byte_order", "compressed", "reaction_counts", "total_reactions",
        "sha256", "config_fingerprint", "created_at"] =
      some ⟨[("width", .nat m.width), ("height", .nat m.height), ("byte_order", .text m.byteOrder),
        ("compressed", .bool m.compressed),
        ("reaction_counts", .array (m.reactionCounts.map .nat)),
        ("total_reactions", .nat m.totalReactions), ("sha256", .text m.sha256),
        ("config_fingerprint", m.configFingerprint.elim .null .text),
        ("created_at", Document.encode m.createdAt)]⟩ :=
    record?_ofFields rfl (by simp)
  -- The record has every field once, so each is found under its name.
  change ((Document.encode m).record? _).bind _ = some m
  rw [hrecord, Option.bind_some]
  simp [Record.required, Record.optional, Record.get?, List.lookup_cons, size?_nat h.width,
    size?_nat h.height, size?_nat h.totalReactions, hcounts, hprint, text?_text, bool?_bool,
    Timestamp.decode_encode]

/-- A manifest with sizes is read back from its text. -/
theorem ofText_toText (h : m.Sized) : Document.ofText (Document.toText m) = .ok m :=
  Document.ofText_toText (written_encode m) (decode_encode h)

end Manifest

/-- The numbers in the manifest of a table whose counts cover its blocks are small. -/
theorem Manifest.sized_describe {t : RuleTable} (h : t.Covered) (compressed : Bool)
    (configFingerprint : Option String) (now : Timestamp) :
    (describe t compressed configFingerprint now).Sized where
  width := show Layout.tableWidth < UInt64.size by decide
  height := show Layout.tableHeight < UInt64.size by decide
  reactionCounts count hcount := Nat.lt_of_le_of_lt (h.count_le hcount) (by decide)
  totalReactions := Nat.lt_of_le_of_lt (h.totalReactions_le) (by decide)

end TileRules
