import TileRules.Config.Documents
import TileRules.Export

/-!
# Build — compile and export as configured

A build is a valid configuration. It compiles the configured rule set into a table and exports the
table to the configured path.

- `Config.load` reads a configuration file, where a missing file stands for the defaults;
- `Build.ofConfig` validates a configuration, `Build.compile` makes its table, and `Build.run`
  exports the table;
- `BuildError.chain` lists the reasons of a failure from the outermost to its source.
-/

namespace TileRules

/-! ## Failures -/

/-- Why a build fails, or a look at what it has made. -/
inductive BuildError
  | config (fault : ConfigFault)
  /-- The configuration file at this path is not valid. -/
  | configFile (path : String) (fault : ConfigFault)
  | file (cause : FileError)
  | rule (cause : RuleError)
  | storage (cause : StorageError)
  | tileOutOfRange (tile : UInt32)
  deriving DecidableEq, Repr

/-- One reason in a chain of reasons. -/
inductive Reason
  | config (fault : ConfigFault)
  | text (message : String)
  deriving DecidableEq, Repr

def Reason.message : Reason → String
  | .config fault => fault.message
  | .text message => message

namespace BuildError

/-- The reasons of a failure, the outermost first. -/
def chain : BuildError → List Reason
  | .config fault => [.config fault]
  | .configFile path fault => [.text ("invalid config " ++ path), .config fault]
  | .file cause => [.text cause.message]
  | .rule cause => [.text cause.message]
  | .storage cause => (cause.message :: cause.sources).map .text
  | .tileOutOfRange tile => [.text s!"Tile type out of range: {tile}"]

end BuildError

/-! ## Configuration files -/

/-- Reads a configuration file; one that does not exist stands for the defaults. -/
def Config.load (path : String) : Running BuildError Config := do
  if ← Running.contains path then
    let text ← (Running.readText path).mapError BuildError.file
    Running.ofExcept ((Config.ofToml text).mapError (.configFile path))
  else
    Running.report (.configMissing path)
    return {}

/-! ## Builds -/

structure Build where
  config : Config
  isValid : config.validate = .ok ()

/-- What a finished build leaves behind. -/
structure BuildResult where
  output : String
  manifest : Manifest
  deriving Repr

namespace Build

/-- The build of a configuration, if that is valid. -/
def ofConfig (config : Config) : Except BuildError Build :=
  match h : config.validate with
  | .ok () => .ok ⟨config, h⟩
  | .error fault => .error (.config fault)

/-- Compiles the configured rule set. -/
def compile (b : Build) : Running BuildError RuleTable := do
  let rules := b.config.rules
  let table ← (Running.ofAuthoring (buildRuleSet rules.ruleSet rules.strictDepth)).mapError
    BuildError.rule
  for (count, tile) in table.counts.toList.zipIdx do
    if count > 0 then
      Running.report (.reactionsOfTile tile count)
  return table

/-- Compiles the configured rule set and exports it to the configured path. -/
def run [Gzip.Packer] (b : Build) : Running BuildError BuildResult := do
  let table ← b.compile
  let target := b.config.exports
  let manifest ← (exportTable target.output table target.compress target.writeManifest
    (some b.config.fingerprint)).mapError BuildError.storage
  Running.report (.tableExported target.output manifest.totalReactions manifest.sha256)
  return { output := target.output, manifest }

end Build
end TileRules
