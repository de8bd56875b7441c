import TileRules.Config
import TileRules.Document.Rules
import TileRules.Toml.Reader

/-!
# Config documents — configurations as JSON and as TOML

A configuration is read from either format section by section; a setting or a section that is not
given has its default, and unknown settings are passed over. A section may also be written as an
array of its settings in order. In JSON such an array has no more items than there are settings; in
TOML further items are passed over.

- the `Document` instances read and write the sections as JSON;
- `Config.ofToml` reads a configuration as TOML and validates it.
-/

namespace TileRules

open Json

/-! ## JSON -/

instance : Document RulesConfig where
  encode c := .ofFields
    [("rule_set", Document.encode c.ruleSet), ("strict_depth", .bool c.strictDepth)]
  decode j := do
    let missing : RulesConfig := {}
    let fields ← j.record? ["rule_set", "strict_depth"]
    return {
      ruleSet := ← fields.optional "rule_set" Document.decode missing.ruleSet
      strictDepth := ← fields.optional "strict_depth" Json.bool? missing.strictDepth }

instance : Document ExportConfig where
  encode c := .ofFields
    [("output", .text c.output), ("compress", .bool c.compress),
      ("write_manifest", .bool c.writeManifest)]
  decode j := do
    let missing : ExportConfig := {}
    let fields ← j.record? ["output", "compress", "write_manifest"]
    return {
      output := ← fields.optional "output" Json.text? missing.output
      compress := ← fields.optional "compress" Json.bool? missing.compress
      writeManifest := ← fields.optional "write_manifest" Json.bool? missing.writeManifest }

instance : Document LoggingConfig where
  encode c := .ofFields [("level", .text c.level)]
  decode j := do
    let missing : LoggingConfig := {}
    let fields ← j.record? ["level"]
    return { level := ← fields.optional "level" Json.text? missing.level }

instance : Document Config where
  encode c := .ofFields
    [("rules", Document.encode c.rules), ("export", Document.encode c.exports),
      ("logging", Document.encode c.logging)]
  decode j := do
    let missing : Config := {}
    let fields ← j.record? ["rules", "export", "logging"]
    return {
      rules := ← fields.optional "rules" Document.decode missing.rules
      exports := ← fields.optional "export" Document.decode missing.exports
      logging := ← fields.optional "logging" Document.decode missing.logging }

/-! ## TOML -/

namespace Config

def ruleSetOfToml? (t : Toml) : Option RuleSet :=
  t.variant?.bind fun given => RuleSet.all.find? (·.name == given)

def rulesOfToml? (t : Toml) : Option RulesConfig := do
  let missing : RulesConfig := {}
  let fields ← t.record? ["rule_set", "strict_depth"]
  return {
    ruleSet := ← Toml.optional fields "rule_set" ruleSetOfToml? missing.ruleSet
    strictDepth := ← Toml.optional fields "strict_depth" Toml.bool? missing.strictDepth }

def exportsOfToml? (t : Toml) : Option ExportConfig := do
  let missing : ExportConfig := {}
  let fields ← t.record? ["output", "compress", "write_manifest"]
  return {
    output := ← Toml.optional fields "output" Toml.text? missing.output
    compress := ← Toml.optional fields "compress" Toml.bool? missing.compress
    writeManifest := ← Toml.optional fields "write_manifest" Toml.bool? missing.writeManifest }

def loggingOfToml? (t : Toml) : Option LoggingConfig := do
  let missing : LoggingConfig := {}
  let fields ← t.record? ["level"]
  return { level := ← Toml.optional fields "level" Toml.text? missing.level }

def ofTomlTree? (t : Toml) : Option Config := do
  let missing : Config := {}
  let fields ← t.record? ["rules", "export", "logging"]
  return {
    rules := ← Toml.optional fields "rules" rulesOfToml? missing.rules
    exports := ← Toml.optional fields "export" exportsOfToml? missing.exports
    logging := ← Toml.optional fields "logging" loggingOfToml? missing.logging }

/-- Reads and validates a configuration. -/
def ofToml (text : String) : Except ConfigFault Config :=
  match (Toml.parse? text).bind ofTomlTree? with
  | none => .error .malformed
  | some config =>
      match config.validate with
      | .ok () => .ok config
      | .error fault => .error fault

end Config
end TileRules
