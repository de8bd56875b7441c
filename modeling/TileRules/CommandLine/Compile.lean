import TileRules.CommandLine.Arguments
import TileRules.CommandLine.LogFilter
import TileRules.CommandLine.Outcome

/-!
# Compile — the command that exports a table

The command loads a configuration file, lets the command line override its settings, compiles the
rule set and exports the table. Logging starts when the settings are known, so nothing that happened
before shows in the log.
-/

namespace TileRules
namespace CompileCommand

def options : List CommandOption :=
  [⟨"config", some 'c', true⟩, ⟨"output", some 'o', true⟩, ⟨"rule-set", none, true⟩,
    ⟨"strict", none, false⟩, ⟨"compress", none, false⟩, ⟨"no-manifest", none, false⟩]

/-- The configuration with the settings of the command line in place of its own. -/
def override (a : Arguments) (c : Config) : Except RuleError Config := do
  let ruleSet ← match a.value? "rule-set" with
    | some name => RuleSet.ofText name
    | none => .ok c.rules.ruleSet
  return { c with
    rules :=
      { ruleSet
        strictDepth := c.rules.strictDepth || a.has "strict" }
    exports :=
      { output := (a.value? "output").getD c.exports.output
        compress := c.exports.compress || a.has "compress"
        writeManifest := c.exports.writeManifest && !a.has "no-manifest" } }

/-- The path of the configuration file. -/
def configPath (a : Arguments) : String :=
  (a.value? "config").getD "config.toml"

/-- The configuration that the command runs with. -/
def configure (a : Arguments) : Running BuildError Config := do
  let config ← Config.load (configPath a)
  Running.ofExcept ((override a config).mapError BuildError.rule)

/-- The path of the table that the command is to write, if it gets that far. -/
def outputPath? (arguments : List String) : StateM Workspace (Option String) := do
  match Arguments.parse? options arguments with
  | none => return none
  | some a => return (← (configure a).run).toOption.map (·.exports.output)

/-- Validates a configuration, and compiles and exports its table. -/
def build [Gzip.Packer] (config : Config) : Running BuildError BuildResult := do
  let b ← Running.ofExcept (Build.ofConfig config)
  b.run

def reportLine (r : BuildResult) : String :=
  s!"Wrote {r.output} ({r.manifest.totalReactions} reactions, sha256 {r.manifest.sha256})\n"

/-- The end of a command that failed after these events. -/
def failed (failure : BuildError) (log : List String) : Outcome :=
  { code := 1, output := "", log, notes := "", failure := some failure }

/-- What the command takes from its surroundings. -/
structure Environment where
  /-- The text of the log filter, if one is set. -/
  logFilter : Option String
  /-- How filters call the components. -/
  nameOf : Component → String := Component.name

/-- Runs the command. -/
def run [Gzip.Packer] (environment : Environment) (arguments : List String) :
    StateM Workspace Outcome := do
  match Arguments.parse? options arguments with
  | none => return .usage
  | some a =>
      match ← (configure a).run with
      | .error failure => return failed failure []
      | .ok config =>
          let before := (← get).events.size
          let finished ← (build config).run
          let filter := LogFilter.choose environment.logFilter config.logging.level
          let events := (← get).events.toList.drop before
          let log := (events.filter (filter.shows environment.nameOf)).map Event.line
          match finished with
          | .error failure => return failed failure log
          | .ok report =>
              return { code := 0, output := reportLine report, log, notes := "", failure := none }

end CompileCommand
end TileRules
