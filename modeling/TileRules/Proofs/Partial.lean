import TileRules.Config.Documents
import TileRules.Proofs.Document
import TileRules.Proofs.Json.Record

/-!
# Partial — configurations that name some of their settings

A document of a configuration may leave out any settings and whole sections, and may have members
that nothing is known of. What it gives is a partial configuration: one choice for each setting, or
none. Reading the document lays these choices over the default configuration, so neither the order
of the members nor the unknown ones count.

- `Config.Partial` are the choices, and `Config.Partial.overlay` lays them over a configuration;
- `Config.Partial.GivenBy` says that members give these choices, in any order and among others;
- `Config.Spoiled` are the documents that cannot be read: a known name stands twice in one object,
  or a name is no text;
- `partial_documents_override_defaults` goes from the documents to all of their texts.
-/

namespace TileRules

open Json

/-! ## Choices -/

structure RulesConfig.Partial where
  ruleSet : Option RuleSet := none
  strictDepth : Option Bool := none

structure ExportConfig.Partial where
  output : Option String := none
  compress : Option Bool := none
  writeManifest : Option Bool := none

structure LoggingConfig.Partial where
  level : Option String := none

structure Config.Partial where
  rules : Option RulesConfig.Partial := none
  exports : Option ExportConfig.Partial := none
  logging : Option LoggingConfig.Partial := none

def RulesConfig.Partial.overlay (p : RulesConfig.Partial) (base : RulesConfig) : RulesConfig where
  ruleSet := p.ruleSet.getD base.ruleSet
  strictDepth := p.strictDepth.getD base.strictDepth

def ExportConfig.Partial.overlay (p : ExportConfig.Partial) (base : ExportConfig) : ExportConfig where
  output := p.output.getD base.output
  compress := p.compress.getD base.compress
  writeManifest := p.writeManifest.getD base.writeManifest

def LoggingConfig.Partial.overlay (p : LoggingConfig.Partial) (base : LoggingConfig) :
    LoggingConfig where
  level := p.level.getD base.level

/-- The configuration with these choices, and with the settings of `base` where there is none. -/
def Config.Partial.overlay (p : Config.Partial) (base : Config) : Config where
  rules := (p.rules.map (·.overlay base.rules)).getD base.rules
  exports := (p.exports.map (·.overlay base.exports)).getD base.exports
  logging := (p.logging.map (·.overlay base.logging)).getD base.logging

/-! ## Documents of choices -/

/-- A rule set is written as its name, or as an object that holds null under the name. -/
inductive RuleSet.Form : RuleSet → Json → Prop
  | name (set : RuleSet) : Form set (.text set.name)
  | tagged (set : RuleSet) : Form set (.object [(some set.name, .null)])

/-- The members of an object give these choices. -/
def InObject {α : Type} (givenBy : α → List (Option String × Json) → Prop) (a : α) (j : Json) :
    Prop :=
  ∃ members, j = .object members ∧ givenBy a members

structure RulesConfig.Partial.GivenBy (p : RulesConfig.Partial)
    (members : List (Option String × Json)) : Prop where
  named : ∀ m ∈ members, m.1 ≠ none
  ruleSet : Sets RuleSet.Form "rule_set" members p.ruleSet
  strictDepth : Sets (fun value j => j = .bool value) "strict_depth" members p.strictDepth

structure ExportConfig.Partial.GivenBy (p : ExportConfig.Partial)
    (members : List (Option String × Json)) : Prop where
  named : ∀ m ∈ members, m.1 ≠ none
  output : Sets (fun value j => j = .text value) "output" members p.output
  compress : Sets (fun value j => j = .bool value) "compress" members p.compress
  writeManifest : Sets (fun value j => j = .bool value) "write_manifest" members p.writeManifest

structure LoggingConfig.Partial.GivenBy (p : LoggingConfig.Partial)
    (members : List (Option String × Json)) : Prop where
  named : ∀ m ∈ members, m.1 ≠ none
  level : Sets (fun value j => j = .text value) "level" members p.level

/-- Every member has a name, each known name stands at most once, and what stands under the known
names are the choices. Nothing is said of the other members. -/
structure Config.Partial.GivenBy (p : Config.Partial)
    (members : List (Option String × Json)) : Prop where
  named : ∀ m ∈ members, m.1 ≠ none
  rules : Sets (InObject RulesConfig.Partial.GivenBy) "rules" members p.rules
  exports : Sets (InObject ExportConfig.Partial.GivenBy) "export" members p.exports
  logging : Sets (InObject LoggingConfig.Partial.GivenBy) "logging" members p.logging

/-- The names that are known in each section. -/
def Config.settings : List (String × List String) :=
  [("rules", ["rule_set", "strict_depth"]), ("export", ["output", "compress", "write_manifest"]),
    ("logging", ["level"])]

/-- A known name stands twice, or a name is no text, among the members or in a section. -/
inductive Config.Spoiled (members : List (Option String × Json)) : Prop
  | root : Spoils (Config.settings.map (·.1)) members → Config.Spoiled members
  | inSection {name : String} {names : List String} {inner : List (Option String × Json)} :
      (name, names) ∈ Config.settings → .object inner ∈ given name members → Spoils names inner →
        Config.Spoiled members

/-! ## Reading the choices -/

section Decoding

variable {members : List (Option String × Json)}

theorem RuleSet.Form.decode {set : RuleSet} {j : Json} (h : Form set j) :
    (Document.decode j : Option RuleSet) = some set := by
  have hname : enumeration? RuleSet.all RuleSet.name (.text set.name) = some set :=
    enumeration?_text (by cases set <;> rfl)
  cases h with
  | name =>
      exact hname
  | tagged =>
      exact hname

theorem RulesConfig.Partial.GivenBy.decode {p : RulesConfig.Partial} (h : p.GivenBy members) :
    (Document.decode (.object members) : Option RulesConfig) = some (p.overlay {}) := by
  have hclean : ¬ Spoils ["rule_set", "strict_depth"] members := by
    refine not_spoils h.named ?_
    simp only [List.forall_mem_cons]
    exact ⟨h.ruleSet.length_given_lt, h.strictDepth.length_given_lt, nofun⟩
  obtain ⟨r, hr, hgiven⟩ := exists_record hclean
  have hset := h.ruleSet.setting (hgiven _ (by simp)) (fun _ _ hform => hform.decode)
    ({} : RulesConfig).ruleSet
  have hdepth := h.strictDepth.setting (hgiven _ (by simp)) bool?_of_eq
    ({} : RulesConfig).strictDepth
  show ((object members).record? _).bind _ = _
  rw [hr, Option.bind_some]
  simp [hset, hdepth, overlay]

theorem ExportConfig.Partial.GivenBy.decode {p : ExportConfig.Partial} (h : p.GivenBy members) :
    (Document.decode (.object members) : Option ExportConfig) = some (p.overlay {}) := by
  have hclean : ¬ Spoils ["output", "compress", "write_manifest"] members := by
    refine not_spoils h.named ?_
    simp only [List.forall_mem_cons]
    exact ⟨h.output.length_given_lt, h.compress.length_given_lt, h.writeManifest.length_given_lt,
      nofun⟩
  obtain ⟨r, hr, hgiven⟩ := exists_record hclean
  have houtput := h.output.setting (hgiven _ (by simp)) text?_of_eq ({} : ExportConfig).output
  have hcompress := h.compress.setting (hgiven _ (by simp)) bool?_of_eq
    ({} : ExportConfig).compress
  have hmanifest := h.writeManifest.setting (hgiven _ (by simp)) bool?_of_eq
    ({} : ExportConfig).writeManifest
  show ((object members).record? _).bind _ = _
  rw [hr, Option.bind_some]
  simp [houtput, hcompress, hmanifest, overlay]

theorem LoggingConfig.Partial.GivenBy.decode {p : LoggingConfig.Partial} (h : p.GivenBy members) :
    (Document.decode (.object members) : Option LoggingConfig) = some (p.overlay {}) := by
  have hclean : ¬ Spoils ["level"] members := by
    refine not_spoils h.named ?_
    simp only [List.forall_mem_cons]
    exact ⟨h.level.length_given_lt, nofun⟩
  obtain ⟨r, hr, hgiven⟩ := exists_record hclean
  have hlevel := h.level.setting (hgiven _ (by simp)) text?_of_eq ({} : LoggingConfig).level
  show ((object members).record? _).bind _ = _
  rw [hr, Option.bind_some]
  simp [hlevel, overlay]

theorem InObject.decode {α β : Type} [Document β]
    {givenBy : α → List (Option String × Json) → Prop} {value : α → β}
    (hdecode : ∀ {a : α} {members : List (Option String × Json)}, givenBy a members →
      (Document.decode (.object members) : Option β) = some (value a))
    (a : α) (j : Json) (h : InObject givenBy a j) :
    (Document.decode j : Option β) = some (value a) := by
  obtain ⟨members, rfl, hgiven⟩ := h
  exact hdecode hgiven

theorem Config.Partial.GivenBy.decode {p : Config.Partial} (h : p.GivenBy members) :
    (Document.decode (.object members) : Option Config) = some (p.overlay {}) := by
  have hclean : ¬ Spoils ["rules", "export", "logging"] members := by
    refine not_spoils h.named ?_
    simp only [List.forall_mem_cons]
    exact ⟨h.rules.length_given_lt, h.exports.length_given_lt, h.logging.length_given_lt, nofun⟩
  obtain ⟨r, hr, hgiven⟩ := exists_record hclean
  have hrules := h.rules.optional (hgiven _ (by simp)) (·.overlay {})
    (InObject.decode RulesConfig.Partial.GivenBy.decode) ({} : Config).rules
  have hexports := h.exports.optional (hgiven _ (by simp)) (·.overlay {})
    (InObject.decode ExportConfig.Partial.GivenBy.decode) ({} : Config).exports
  have hlogging := h.logging.optional (hgiven _ (by simp)) (·.overlay {})
    (InObject.decode LoggingConfig.Partial.GivenBy.decode) ({} : Config).logging
  show ((object members).record? _).bind _ = _
  rw [hr, Option.bind_some]
  simp [hrules, hexports, hlogging, overlay]

/-- A section that is spoiled is not read. -/
theorem decode_section_of_spoils (inner : List (Option String × Json)) :
    (Spoils ["rule_set", "strict_depth"] inner →
      (Document.decode (.object inner) : Option RulesConfig) = none) ∧
    (Spoils ["output", "compress", "write_manifest"] inner →
      (Document.decode (.object inner) : Option ExportConfig) = none) ∧
    (Spoils ["level"] inner → (Document.decode (.object inner) : Option LoggingConfig) = none) := by
  refine ⟨fun h => ?_, fun h => ?_, fun h => ?_⟩
  all_goals
    show ((object inner).record? _).bind _ = none
    rw [record?_of_spoils h]
    rfl

theorem Config.decode_of_spoiled (h : Config.Spoiled members) :
    (Document.decode (.object members) : Option Config) = none := by
  show ((object members).record? ["rules", "export", "logging"]).bind _ = none
  by_cases hspoils : Spoils ["rules", "export", "logging"] members
  · rw [record?_of_spoils hspoils]
    rfl
  · cases h with
    | root hroot =>
        exact absurd hroot hspoils
    | @inSection name names inner hsection hinner hspoiled =>
        obtain ⟨r, hr, hgiven⟩ := exists_record hspoils
        obtain ⟨hrules, hexports, hlogging⟩ := decode_section_of_spoils inner
        simp only [Config.settings, List.mem_cons, Prod.mk.injEq, List.not_mem_nil, or_false]
          at hsection
        rw [hr, Option.bind_some]
        rcases hsection with ⟨rfl, rfl⟩ | ⟨rfl, rfl⟩ | ⟨rfl, rfl⟩
        · have hread := Record.optional_of_mem (hgiven _ (by simp)) hinner Document.decode
            ({} : Config).rules
          simp [hread, hrules hspoiled]
        · have hread := Record.optional_of_mem (hgiven _ (by simp)) hinner Document.decode
            ({} : Config).exports
          simp [hread, hexports hspoiled]
        · have hread := Record.optional_of_mem (hgiven _ (by simp)) hinner Document.decode
            ({} : Config).logging
          simp [hread, hlogging hspoiled]

end Decoding

/-! ## Texts -/

/-- A document lays the settings that it names over the defaults, whatever other members it has and
however it is spelled, as long as every name is a text and no known name stands twice in an object.
Otherwise it cannot be read. -/
theorem partial_documents_override_defaults :
    (∀ (p : Config.Partial) (members : List (Option String × Json)) (text : String),
      p.GivenBy members → Spells (.object members) text.toList →
        Document.ofText text = .ok (p.overlay {})) ∧
      ∀ (members : List (Option String × Json)) (text : String),
        Config.Spoiled members → Spells (.object members) text.toList →
          (Document.ofText text : Except StorageError Config) =
            .error (.serialization .unreadable) := by
  constructor
  · intro p members text hgiven hspells
    rw [Document.ofText_of_spells hspells, hgiven.decode]
  · intro members text hspoiled hspells
    rw [Document.ofText_of_spells hspells, Config.decode_of_spoiled hspoiled]

/-- The choices of two settings in two sections. -/
def chosenDepth : Config.Partial where
  rules := some { strictDepth := some true }
  logging := some { level := some "debug" }

/-- These choices among members that nothing is known of. -/
def depthFields : List (String × Json) :=
  [("rule_set", .array [.null, .text "empty"]), ("logging", .ofFields [("level", .text "debug")]),
    ("rules", .ofFields [("export", .null), ("strict_depth", .bool true)])]

theorem chosenDepth_givenBy :
    chosenDepth.GivenBy (depthFields.map fun (name, value) => (some name, value)) where
  named := by simp [depthFields]
  rules := ⟨_, rfl, _, rfl, by simp, rfl, _, rfl, rfl⟩
  exports := rfl
  logging := ⟨_, rfl, _, rfl, by simp, _, rfl, rfl⟩

theorem written_depthFields : Written (.ofFields depthFields) := by
  refine Written.object ?_
  simp only [depthFields, List.forall_mem_cons]
  exact ⟨.array (by simp [Written.null, Written.text]), .object (by simp [Written.text]),
    .object (by simp [Written.null, Written.bool]), nofun⟩

/-- One setting twice, with the same value. -/
def repeatedFields : List (String × Json) :=
  [("logging", .ofFields [("level", .text "debug"), ("level", .text "debug")])]

theorem spoiled_repeatedFields :
    Config.Spoiled (repeatedFields.map fun (name, value) => (some name, value)) := by
  have hsection : ("logging", ["level"]) ∈ Config.settings := by
    simp [Config.settings]
  exact .inSection hsection (List.mem_singleton.2 rfl) (.twice List.mem_cons_self (Nat.le_refl 2))

theorem written_repeatedFields : Written (.ofFields repeatedFields) := by
  refine Written.object ?_
  simp only [repeatedFields, List.forall_mem_cons]
  exact ⟨.object (by simp [Written.text]), nofun⟩

theorem chosenDepth_overrides_defaults :
    Document.ofText (Json.ofFields depthFields).pretty =
        .ok ({ rules := { strictDepth := true }, logging := { level := "debug" } } : Config) ∧
      (Document.ofText (Json.ofFields repeatedFields).pretty : Except StorageError Config) =
        .error (.serialization .unreadable) :=
  ⟨partial_documents_override_defaults.1 chosenDepth _ _ chosenDepth_givenBy
      (spells_pretty written_depthFields),
    partial_documents_override_defaults.2 _ _ spoiled_repeatedFields
      (spells_pretty written_repeatedFields)⟩

/-- A member whose name is one half of a surrogate pair. -/
def namelessMember : MemberText where
  name := none
  nameChars := ['"', '\\', 'u', 'd', '8', '0', '0', '"']
  value := .null
  valueChars := ['n', 'u', 'l', 'l']

theorem spellsName_namelessMember : SpellsName namelessMember.name namelessMember.nameChars := by
  have hcodes : SpellsCodes [0xd800] ['\\', 'u', 'd', '8', '0', '0'] := .number rfl .nil
  refine ⟨[], _, [], gap_nil, ⟨_, _, hcodes, fun s => ?_, rfl⟩, gap_nil, rfl⟩
  constructor
  · nofun
  · intro hjoins
    cases assemble_of_joins hjoins

/-- An unknown name that is no text is not passed over. -/
theorem nameless_member_is_refused :
    Spells (.object [(none, .null)]) "\x7b\"\\ud800\":null\x7d".toList ∧
      (∀ name ∈ Config.settings.map (·.1), given name [(none, .null)] = []) ∧
        (Document.ofText "\x7b\"\\ud800\":null\x7d" : Except StorageError Config) =
          .error (.serialization .unreadable) := by
  have hnames : ∀ m ∈ [namelessMember], SpellsName m.name m.nameChars :=
    List.forall_mem_singleton.2 spellsName_namelessMember
  have hvalues : ∀ m ∈ [namelessMember], Spells m.value m.valueChars :=
    List.forall_mem_singleton.2 Spells.null
  have hspells : Spells (.object [(none, .null)]) "\x7b\"\\ud800\":null\x7d".toList :=
    Spells.object hnames hvalues gap_nil
  have hspoiled : Config.Spoiled [(none, .null)] := .root (.nameless List.mem_cons_self)
  refine ⟨hspells, by decide, ?_⟩
  rw [Document.ofText_of_spells hspells, Config.decode_of_spoiled hspoiled]

end TileRules
