import TileRules.Digest.Sha256
import TileRules.Event
import TileRules.Files
import TileRules.RuleSet
import TileRules.Text.Blank

/-!
# Config — what to compile and where to write it

A configuration has three sections: which rules to compile and how strictly, where and how the table
is written, and how much is logged. Every setting has a default.

- `Config.validate` says what is wrong with a configuration, the output path before the level;
- `Config.fingerprint` is a digest of every setting that changes the compiled table.
-/

namespace TileRules

/-- Which rules to compile and how strictly. -/
structure RulesConfig where
  ruleSet : RuleSet := .world
  /-- Refuse condition trees deeper than three levels. -/
  strictDepth : Bool := false
  deriving DecidableEq, Repr

/-- Where and how the compiled table is written. -/
structure ExportConfig where
  output : String := "rules.bin"
  compress : Bool := false
  /-- Write a manifest next to the table. -/
  writeManifest : Bool := true
  deriving DecidableEq, Repr

structure LoggingConfig where
  /-- The level when the environment gives none. -/
  level : String := "info"
  deriving DecidableEq, Repr

structure Config where
  rules : RulesConfig := {}
  exports : ExportConfig := {}
  logging : LoggingConfig := {}
  deriving DecidableEq, Repr

/-- What is wrong with a configuration. -/
inductive ConfigFault
  /-- The text is no document, or a setting has a value of a wrong kind. -/
  | malformed
  | emptyOutput
  | unknownLevel (level : String)
  deriving DecidableEq, Repr

def ConfigFault.message : ConfigFault → String
  | .malformed => "malformed TOML document"
  | .emptyOutput => "Export output path must not be empty"
  | .unknownLevel level => "Unknown log level: " ++ level

namespace Config

def validate (c : Config) : Except ConfigFault Unit :=
  if Text.isBlankText c.exports.output then .error .emptyOutput
  else if (Level.ofText? c.logging.level).isNone then .error (.unknownLevel c.logging.level)
  else .ok ()

/-- The settings that change the compiled table, as a text. -/
def rulesText (r : RulesConfig) : String :=
  "RulesConfig \x7b rule_set: " ++ r.ruleSet.label ++ ", strict_depth: " ++ toString r.strictDepth
    ++ " \x7d"

/-- The digest of `rulesText`, in hexadecimal. -/
def fingerprint (c : Config) : String :=
  checksum (FileSystem.textBytes (rulesText c.rules))

end Config
end TileRules
