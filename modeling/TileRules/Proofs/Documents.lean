import TileRules.Config.Documents
import TileRules.Proofs.Manifest

/-!
# Documents — every value is read back from its text

Values are written as documents by their parts: names for the members of an enumeration, numbers for
words and leaves, arrays for lists and rows, objects for records. So a value is read back if its
parts are, and this goes up from single words to summaries, configurations and manifests. Texts may
hold any characters, and leaves any sixteen bits; the plain numbers have to be sizes, and the signed
ones 32-bit numbers.

- `Document.Lossless` holds of a value that its own document gives back, and `Lossless.list` and
  `Lossless.vector` carry it from the items to the list;
- `lossless_row`, `lossless_flat`, `lossless_reactionSummary` and `lossless_config` hold of the
  records;
- `documents_are_read_back` goes from the documents to their texts.
-/

namespace TileRules

open Json

/-! ## Values and lists of values -/

/-- The document of the value can be printed, and gives the value back. -/
structure Document.Lossless {α : Type} [Document α] (a : α) : Prop where
  written : Written (Document.encode a)
  decode_encode : Document.decode (Document.encode a) = some a

namespace Document

variable {α : Type} [Document α]

theorem Lossless.ofText_toText {a : α} (h : Lossless a) : ofText (toText a) = .ok a :=
  Document.ofText_toText h.written h.decode_encode

theorem written_map_encode {list : List α} (h : ∀ a ∈ list, Lossless a) :
    Written (.array (list.map Document.encode)) := by
  refine Written.array fun item hitem => ?_
  rcases List.mem_map.1 hitem with ⟨a, ha, rfl⟩
  exact (h a ha).written

theorem Lossless.list {list : List α} (h : ∀ a ∈ list, Lossless a) : Lossless list where
  written := written_map_encode h
  decode_encode := list?_map fun a ha => (h a ha).decode_encode

theorem Lossless.vector {n : Nat} {items : Vector α n} (h : ∀ a ∈ items, Lossless a) :
    Lossless items where
  written := written_map_encode fun a ha => h a (Vector.mem_toList_iff.1 ha)
  decode_encode := vector?_map fun a ha => (h a (Vector.mem_toList_iff.1 ha)).decode_encode

end Document

open Document

/-! ## Names and numbers -/

theorem lossless_mode (m : Mode) : Lossless m where
  written := Written.text m.name
  decode_encode := enumeration?_text (by cases m <;> rfl)

theorem lossless_ruleSet (set : RuleSet) : Lossless set where
  written := Written.text set.name
  decode_encode := enumeration?_text (by cases set <;> rfl)

theorem lossless_word (word : UInt32) : Lossless word where
  written := written_nat word.toNat
  decode_encode := word?_nat word

/-- A leaf keeps all bits of its number. -/
theorem lossless_leaf (l : Leaf) : Lossless l where
  written := written_nat l.raw.toNat
  decode_encode := by
    have hlimit : l.raw.toNat ≤ UInt16.size - 1 := Nat.le_pred_of_lt l.raw.toNat_lt
    show ((Json.nat l.raw.toNat).nat? (UInt16.size - 1)).map _ = some l
    rw [nat?_nat hlimit, Option.map_some, UInt16.ofNat_toNat]

/-! ## Rows and flat conditions -/

theorem lossless_row (row : Row) : Lossless row := by
  have hwords : Lossless row.words := Lossless.vector fun word _ => lossless_word word
  refine ⟨hwords.written, ?_⟩
  show (Document.decode (Document.encode row.words)).map Row.ofWords = some row
  rw [hwords.decode_encode]
  rfl

theorem lossless_modes {n : Nat} (modes : Vector Mode n) : Lossless modes :=
  Lossless.vector fun m _ => lossless_mode m

theorem lossless_leaves {n : Nat} (leaves : Vector Leaf n) : Lossless leaves :=
  Lossless.vector fun l _ => lossless_leaf l

/-- The number of lost operators is a size. -/
def Flat.Sized (flat : Flat) : Prop :=
  flat.truncated < UInt64.size

theorem lossless_flat {flat : Flat} (h : flat.Sized) : Lossless flat := by
  have hmodes := lossless_modes flat.modes
  have hleaves := lossless_leaves flat.leaves
  constructor
  · refine Written.object ?_
    simp [hmodes.written, hleaves.written, written_nat]
  · show ((ofFields _).record? _).bind _ = some flat
    rw [record?_ofFields (by rfl) (by decide), Option.bind_some]
    simp [Record.required, Record.get?, List.lookup_cons, hmodes.decode_encode,
      hleaves.decode_encode, size?_nat h]

/-! ## Summaries -/

/-- The numbers of a condition are of their machine types. -/
structure ConditionSummary.Sized (c : ConditionSummary) : Prop where
  row : c.row < UInt64.size
  value : IsInt32 c.value

/-- The numbers of a summary and of its conditions are of their machine types. -/
structure ReactionSummary.Sized (s : ReactionSummary) : Prop where
  slot : s.slot < UInt64.size
  bias : IsInt32 s.bias
  conditions : ∀ c ∈ s.conditions, c.Sized

theorem lossless_conditionSummary {c : ConditionSummary} (h : c.Sized) : Lossless c := by
  have hmodes := lossless_modes c.modes
  have hleaves := lossless_leaves c.leaves
  constructor
  · refine Written.object ?_
    simp [hmodes.written, hleaves.written, written_nat, Written.int]
  · show ((ofFields _).record? _).bind _ = some c
    rw [record?_ofFields (by rfl) (by decide), Option.bind_some]
    simp [Record.required, Record.get?, List.lookup_cons, hmodes.decode_encode,
      hleaves.decode_encode, size?_nat h.row, int32?_int h.value]

theorem lossless_reactionSummary {s : ReactionSummary} (h : s.Sized) : Lossless s := by
  have hconditions : Lossless s.conditions :=
    Lossless.list fun c hc => lossless_conditionSummary (h.conditions c hc)
  constructor
  · refine Written.object ?_
    simp [hconditions.written, written_nat, Written.int]
  · show ((ofFields _).record? _).bind _ = some s
    rw [record?_ofFields (by rfl) (by decide), Option.bind_some]
    simp [Record.required, Record.get?, List.lookup_cons, hconditions.decode_encode,
      size?_nat h.slot, int32?_int h.bias, word?_nat]

/-! ## Configurations -/

theorem lossless_rulesConfig (c : RulesConfig) : Lossless c := by
  have hset := lossless_ruleSet c.ruleSet
  constructor
  · refine Written.object ?_
    simp [hset.written, Written.bool]
  · show ((ofFields _).record? _).bind _ = some c
    rw [record?_ofFields (by rfl) (by decide), Option.bind_some]
    simp [Record.optional, Record.get?, List.lookup_cons, hset.decode_encode, bool?_bool]

theorem lossless_exportConfig (c : ExportConfig) : Lossless c := by
  constructor
  · refine Written.object ?_
    simp [Written.text, Written.bool]
  · show ((ofFields _).record? _).bind _ = some c
    rw [record?_ofFields (by rfl) (by decide), Option.bind_some]
    simp [Record.optional, Record.get?, List.lookup_cons, text?_text, bool?_bool]

theorem lossless_loggingConfig (c : LoggingConfig) : Lossless c := by
  constructor
  · refine Written.object ?_
    simp [Written.text]
  · show ((ofFields _).record? _).bind _ = some c
    rw [record?_ofFields (by rfl) (by decide), Option.bind_some]
    simp [Record.optional, Record.get?, text?_text]

/-- A configuration may hold any texts. -/
theorem lossless_config (c : Config) : Lossless c := by
  have hrules := lossless_rulesConfig c.rules
  have hexports := lossless_exportConfig c.exports
  have hlogging := lossless_loggingConfig c.logging
  constructor
  · refine Written.object ?_
    simp [hrules.written, hexports.written, hlogging.written]
  · show ((ofFields _).record? _).bind _ = some c
    rw [record?_ofFields (by rfl) (by decide), Option.bind_some]
    simp [Record.optional, Record.get?, List.lookup_cons, hrules.decode_encode,
      hexports.decode_encode, hlogging.decode_encode]

theorem lossless_manifest {m : Manifest} (h : m.Sized) : Lossless m where
  written := m.written_encode
  decode_encode := Manifest.decode_encode h

/-! ## Texts -/

/-- Rows, flat conditions, summaries, configurations and manifests are read back from their texts,
if their numbers are of their machine types. -/
theorem documents_are_read_back :
    (∀ row : Row, ofText (toText row) = .ok row) ∧
      (∀ flat : Flat, flat.Sized → ofText (toText flat) = .ok flat) ∧
      (∀ s : ReactionSummary, s.Sized → ofText (toText s) = .ok s) ∧
      (∀ c : Config, ofText (toText c) = .ok c) ∧
      ∀ m : Manifest, m.Sized → ofText (toText m) = .ok m := by
  refine ⟨?_, ?_, ?_, ?_, ?_⟩
  · intro row
    exact (lossless_row row).ofText_toText
  · intro flat hsized
    exact (lossless_flat hsized).ofText_toText
  · intro s hsized
    exact (lossless_reactionSummary hsized).ofText_toText
  · intro c
    exact (lossless_config c).ofText_toText
  · intro m hsized
    exact (lossless_manifest hsized).ofText_toText

/-- The largest numbers that a flat condition can have, with leaves beyond nine bits. -/
def largestFlat : Flat :=
  { modes := #v[.nand, .nor, .or, .and, .nand, .nor, .or]
    leaves := Vector.replicate 8 ⟨65535⟩
    truncated := 18446744073709551615 }

/-- Numbers at the ends of their ranges. -/
def largestSummary : ReactionSummary :=
  { tile := 4294967295
    slot := 18446744073709551615
    resultTile := 31
    bias := -2147483648
    conditions := [⟨0, 2147483647, largestFlat.modes, largestFlat.leaves⟩,
      ⟨18446744073709551615, -1, largestFlat.modes, largestFlat.leaves⟩] }

/-- A manifest with escapes in its texts, that was written in a leap second. -/
def unusualManifest : Manifest :=
  { width := 0
    height := 18446744073709551615
    byteOrder := "\"\\\n\x01é😀"
    compressed := true
    reactionCounts := [18446744073709551615, 0]
    totalReactions := 1
    sha256 := ""
    configFingerprint := some "null"
    createdAt := ⟨⟨-1, 12, 31, by decide⟩, 23, 59, 60, 5000000, by decide⟩ }

theorem unusual_documents_are_read_back :
    (largestFlat.Sized ∧ ofText (toText largestFlat) = .ok largestFlat) ∧
      (largestSummary.Sized ∧ ofText (toText largestSummary) = .ok largestSummary) ∧
      unusualManifest.Sized ∧ ofText (toText unusualManifest) = .ok unusualManifest := by
  obtain ⟨_, hflat, hsummary, _, hmanifest⟩ := documents_are_read_back
  have hflatSized : largestFlat.Sized := by
    show (18446744073709551615 : Nat) < UInt64.size
    decide
  have hsummarySized : largestSummary.Sized := by
    refine ⟨by decide, by decide, ?_⟩
    intro c hc
    simp only [largestSummary, List.mem_cons, List.not_mem_nil, or_false] at hc
    rcases hc with rfl | rfl
    · exact ⟨by decide, by decide⟩
    · exact ⟨by decide, by decide⟩
  have hmanifestSized : unusualManifest.Sized := by
    have hcounts : ∀ count ∈ [18446744073709551615, 0], count < UInt64.size := by decide
    exact ⟨show (0 : Nat) < UInt64.size by decide,
      show (18446744073709551615 : Nat) < UInt64.size by decide, hcounts,
      show (1 : Nat) < UInt64.size by decide⟩
  exact ⟨⟨hflatSized, hflat _ hflatSized⟩, ⟨hsummarySized, hsummary _ hsummarySized⟩,
    hmanifestSized, hmanifest _ hmanifestSized⟩

end TileRules
