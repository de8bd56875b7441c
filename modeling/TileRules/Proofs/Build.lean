import TileRules.CommandLine.Compile
import TileRules.Proofs.Frame
import TileRules.Proofs.Loading
import TileRules.Proofs.World

/-!
# Build — a build touches its outputs only, and writes what it compiled

A build that is valid compiles its table without a failure and then exports it, so all that it does
to the files is done by the export. The tables of the rule sets are plain: their files are never
taken for compressed ones, and their counts can be read off their words. So both readers give the
compiled table back, from a raw file as from a compressed one.

- `Running.Yields` holds of steps that succeed and do nothing but report;
- `Build.outcome_build` reduces a build to what follows its compilation, and `Build.finish_cases`
  says everything that a successful one did there;
- `build_writes_what_it_compiles` puts them together.
-/

namespace TileRules

/-! ## Steps that only report -/

namespace Running

variable {α β ε δ : Type}

/-- The step succeeds with this, and does nothing to the workspace but report. -/
def Yields (step : Running ε α) (a : α) : Prop :=
  ∀ w : Workspace, ∃ events, step.outcome w = (.ok a, { w with events })

theorem Yields.pure (a : α) : Yields (pure a : Running ε α) a :=
  fun w => ⟨w.events, rfl⟩

theorem Yields.report (e : Event) : Yields (report e : Running ε Unit) () :=
  fun w => ⟨w.events.push e, rfl⟩

theorem Yields.bind {step : Running ε α} {next : α → Running ε β} {a : α} {b : β}
    (hstep : Yields step a) (hnext : Yields (next a) b) : Yields (step >>= next) b := by
  intro w
  rcases hstep w with ⟨events, hmid⟩
  rcases hnext { w with events } with ⟨more, hafter⟩
  exact ⟨more, (outcome_bind_of_ok hmid next).trans hafter⟩

theorem Yields.mapError {step : Running ε α} {a : α} (h : Yields step a) (f : ε → δ) :
    Yields (step.mapError f) a := by
  intro w
  rcases h w with ⟨events, hstep⟩
  refine ⟨events, ?_⟩
  rw [outcome_mapError, hstep]
  rfl

theorem Yields.ofAuthoring {build : Authoring α} {a : α} (h : Authoring.Yields build a) :
    Yields (ofAuthoring build) a := by
  intro w
  rcases h w.events with ⟨events, hbuild⟩
  have hrun : (Running.ofAuthoring build).outcome w =
      ((build.result w.events).1, { w with events := (build.result w.events).2 }) :=
    rfl
  exact ⟨events, by rw [hrun, hbuild]⟩

theorem Yields.forIn {body : β → Unit → Running ε (ForInStep Unit)}
    (hbody : ∀ b, Yields (body b ()) (.yield ())) (list : List β) :
    Yields (forIn list () body) () := by
  induction list with
  | nil =>
      exact Yields.pure ()
  | cons b list ih =>
      rw [List.forIn_cons]
      exact (hbody b).bind ih

end Running

/-! ## Exports of plain tables -/

theorem covered_authored (calls : List (UInt32 × Draft)) : (authoredTable calls).Covered :=
  RuleTable.covered_empty.attempts (authoredRun calls)

section Exports

variable [Gzip.Packer] [Gzip.LawfulPacker] {calls : List (UInt32 × Draft)} {path : String}
  {compress writeManifest : Bool} {configFingerprint : Option String} {m : Manifest}
  {before exported after : Workspace}

/-- Without a manifest too, the file of a plain table gives all of the table back. -/
theorem Plain.outcome_readTable (h : Plain calls)
    (hread : after.files.readBytes path =
      .ok (fileBytes (authoredTable calls).toBytes compress)) :
    (readTable path).outcome after = (.ok (authoredTable calls), after) := by
  rw [TileRules.outcome_readTable hread, tableOfFile,
    bind_of_ok (wordsOfFile_of_decompress (h.decompress_fileBytes compress)), h.fromWords_eq]
  rfl

theorem Plain.outcome_verifyManifest (h : Plain calls)
    (hread : after.files.readBytes path =
      .ok (fileBytes (authoredTable calls).toBytes compress))
    (hm : m.Describes (authoredTable calls)) :
    (verifyManifest path m).outcome after = (.ok (authoredTable calls), after) := by
  rw [TileRules.outcome_verifyManifest hread (h.decompress_fileBytes compress),
    checkManifest_eq_ok_iff.2 ⟨rfl, hm⟩]

/-- What an export of a plain table gives when it is read, as long as its files stay the same. -/
theorem Plain.restored_of_exportTable (h : Plain calls)
    (hexported : (exportTable path (authoredTable calls) compress writeManifest
      configFingerprint).outcome before = (.ok m, exported))
    (hfiles : after.files = exported.files) :
    (readTable path).outcome after = (.ok (authoredTable calls), after) ∧
      (verifyManifest path m).outcome after = (.ok (authoredTable calls), after) ∧
        (writeManifest = true →
          (readDocument (manifestPath path)).outcome after = (.ok m, after)) := by
  have hcovered := covered_authored calls
  have hread := readBytes_of_exportTable hexported
  rw [← hfiles] at hread
  have hdescribes : m.Describes (authoredTable calls) := by
    rw [(exportTable_cases hexported).1]
    exact describes_describe hcovered _ _ _
  refine ⟨h.outcome_readTable hread, h.outcome_verifyManifest hread hdescribes, ?_⟩
  rintro rfl
  have hdocument := (readDocument_of_exportTable hcovered hexported).1
  rw [outcome_readDocument_eq_ok_iff, ← hfiles] at hdocument
  exact outcome_readDocument_eq_ok_iff.2 ⟨hdocument.1, rfl⟩

end Exports

/-! ## Builds -/

namespace Build

variable {b : Build} {t : RuleTable}

/-- The table of a build is that of its rule set, whatever the workspace. -/
theorem yields_compile
    (h : Authoring.Yields (buildRuleSet b.config.rules.ruleSet b.config.rules.strictDepth) t) :
    b.compile.Yields t := by
  refine ((Running.Yields.ofAuthoring h).mapError _).bind ?_
  refine (Running.Yields.forIn (fun entry => ?_) _).bind (Running.Yields.pure t)
  -- Tile types without reactions are not reported.
  obtain ⟨count, tile⟩ := entry
  by_cases hcount : count > 0
  · simp only [if_pos hcount]
    exact (Running.Yields.report _).bind (Running.Yields.pure _)
  · simp only [if_neg hcount]
    exact Running.Yields.pure _

/-! ## Runs -/

def exporting [Gzip.Packer] (b : Build) (t : RuleTable) : Running StorageError Manifest :=
  exportTable b.config.exports.output t b.config.exports.compress b.config.exports.writeManifest
    (some b.config.fingerprint)

/-- What a build does once it has its table. -/
def finish [Gzip.Packer] (b : Build) (t : RuleTable) : Running BuildError BuildResult := do
  let output := b.config.exports.output
  let manifest ← (b.exporting t).mapError BuildError.storage
  Running.report (.tableExported output manifest.totalReactions manifest.sha256)
  return { output, manifest }

theorem ofConfig_of_error {config : Config} {fault : ConfigFault}
    (h : config.validate = .error fault) : Build.ofConfig config = .error (.config fault) := by
  rw [Build.ofConfig]
  split
  · rename_i hvalid
    rw [hvalid] at h
    cases h
  · rename_i other hother
    rw [hother] at h
    cases h
    rfl

theorem ofConfig_of_ok {config : Config} (h : config.validate = .ok ()) :
    Build.ofConfig config = .ok ⟨config, h⟩ := by
  rw [Build.ofConfig]
  split
  · rfl
  · rename_i fault hfault
    rw [hfault] at h
    cases h

/-- A configuration that is not valid stops a build before it does anything. -/
theorem outcome_build_of_error [Gzip.Packer] {config : Config} {fault : ConfigFault}
    (h : config.validate = .error fault) (w : Workspace) :
    (CompileCommand.build config).outcome w = (.error (.config fault), w) := by
  rw [CompileCommand.build, Running.outcome_bind, Running.outcome_ofExcept, ofConfig_of_error h]

theorem outcome_build [Gzip.Packer] (b : Build)
    (h : Authoring.Yields (buildRuleSet b.config.rules.ruleSet b.config.rules.strictDepth) t)
    (w : Workspace) :
    ∃ events, (CompileCommand.build b.config).outcome w =
      (b.finish t).outcome { w with events } := by
  rcases yields_compile h w with ⟨events, hcompile⟩
  -- Before the export there are only the check of the configuration and the events of compiling.
  have hbuild : (Running.ofExcept (Build.ofConfig b.config)).outcome w = (.ok b, w) := by
    rw [ofConfig_of_ok b.isValid, Running.outcome_ofExcept]
  refine ⟨events, ?_⟩
  rw [CompileCommand.build, Running.outcome_bind_of_ok hbuild]
  exact Running.outcome_bind_of_ok hcompile b.finish

theorem changesOnly_finish [Gzip.Packer] (b : Build) (t : RuleTable) :
    (b.finish t).ChangesOnly b.config.exports.outputs :=
  ((changesOnly_exportTable b.config.exports t _).mapError _).bind fun _ =>
    Running.changesOnly_of_files_eq fun _ => rfl

/-- Everything that a successful end of a build did. -/
theorem finish_cases [Gzip.Packer] {report : BuildResult} {before after : Workspace}
    (h : (b.finish t).outcome before = (.ok report, after)) :
    report.output = b.config.exports.output ∧
      ∃ exported, (b.exporting t).outcome before = (.ok report.manifest, exported) ∧
        after.files = exported.files := by
  rcases Running.outcome_bind_eq_ok.1 h with ⟨manifest, exported, hexport, h⟩
  rw [Running.outcome_bind_of_ok (Running.outcome_report _ _), Running.outcome_pure] at h
  cases h
  rw [Running.outcome_mapError] at hexport
  injection hexport with hmanifest hfiles
  subst hfiles
  refine ⟨rfl, _, Prod.ext (mapError_eq_ok.1 hmanifest) rfl, rfl⟩

theorem exists_finish [Gzip.Packer] (b : Build) {m : Manifest} {before exported : Workspace}
    (h : (b.exporting t).outcome before = (.ok m, exported)) :
    ∃ report after, (b.finish t).outcome before = (.ok report, after) := by
  have hexport := Running.outcome_mapError BuildError.storage (b.exporting t) before
  rw [h] at hexport
  exact ⟨_, _, Running.outcome_bind_of_ok hexport _⟩

end Build

/-- A build changes nothing at all if its configuration is not valid, and nothing but its outputs
otherwise, whether it succeeds or not. The compilation itself never fails. Behind a successful build
both readers find exactly the table that was compiled, with its counts, in a raw file as in one that
was compressed by whatever packer, and a manifest that was written is read back as it was. -/
theorem build_writes_what_it_compiles [Gzip.Packer] [Gzip.LawfulPacker] (config : Config)
    (before : Workspace) :
    (∀ fault, config.validate = .error fault →
      (CompileCommand.build config).outcome before = (.error (.config fault), before)) ∧
      before.files.ChangesOnly config.exports.outputs
        ((CompileCommand.build config).outcome before).2.files ∧
      ∃ table,
        (buildRuleSet config.rules.ruleSet config.rules.strictDepth).outcome = .ok table ∧
          ∀ report after, (CompileCommand.build config).outcome before = (.ok report, after) →
            report.output = config.exports.output ∧
              report.manifest.reactionCounts = table.counts.toList ∧
              report.manifest.totalReactions = table.counts.toList.foldr (· + ·) 0 ∧
              report.manifest.sha256 = checksum table.toBytes ∧
              report.manifest.configFingerprint = some config.fingerprint ∧
              (readTable config.exports.output).outcome after = (.ok table, after) ∧
              (verifyManifest config.exports.output report.manifest).outcome after =
                (.ok table, after) ∧
              (config.exports.writeManifest = true →
                (readDocument (manifestPath config.exports.output)).outcome after =
                  (.ok report.manifest, after)) := by
  rcases exists_buildRuleSet config.rules.ruleSet config.rules.strictDepth with
    ⟨calls, hyields, hplain⟩
  cases hvalid : config.validate with
  | error fault =>
      have hout := Build.outcome_build_of_error hvalid before
      rw [hout]
      refine ⟨?_, FileSystem.ChangesOnly.refl _ _, authoredTable calls, hyields.outcome_eq, ?_⟩
      · intro other hother
        cases hother
        rfl
      · intro report after hok
        cases hok
  | ok _ =>
      let b : Build := ⟨config, hvalid⟩
      rcases b.outcome_build hyields before with ⟨events, hout⟩
      change (CompileCommand.build config).outcome before = _ at hout
      rw [hout]
      refine ⟨fun fault hfault => (by cases hfault), b.changesOnly_finish _ { before with events },
        authoredTable calls, hyields.outcome_eq, ?_⟩
      intro report after hok
      rcases Build.finish_cases hok with ⟨houtput, exported, hexported, hfiles⟩
      -- The manifest says what was exported, and the report behind the export touches no file.
      rcases exportTable_cases hexported with ⟨hm, _⟩
      refine ⟨houtput, ?_, ?_, ?_, ?_, hplain.restored_of_exportTable hexported hfiles⟩
      all_goals
        rw [hm]
        rfl

/-! ## The default build -/

theorem validate_default : Config.validate {} = .ok () := by
  have houtput : ¬ Text.isBlankText ({} : Config).exports.output = true := by decide
  have hnumber : Text.unsigned? (UInt64.size - 1) ({} : Config).logging.level = none := rfl
  have hlevel : Level.ofText? ({} : Config).logging.level = some .info := by
    rw [Level.ofText?, hnumber]
    decide
  rw [Config.validate, if_neg houtput, hlevel]
  rfl

/-- In an empty directory the default build succeeds. -/
theorem exists_default_build [Gzip.Packer] :
    ∃ report after, (CompileCommand.build {}).outcome Workspace.empty = (.ok report, after) := by
  rcases exists_buildRuleSet .world false with ⟨calls, hyields, _⟩
  rcases Build.outcome_build ⟨{}, validate_default⟩ hyields Workspace.empty with ⟨events, hout⟩
  have hwrite : FileSystem.empty.writeBytes "rules.bin"
      (fileBytes (authoredTable calls).toBytes false) =
        .ok (FileSystem.empty.insert ["rules.bin"]
          (.file (fileBytes (authoredTable calls).toBytes false))) :=
    rfl
  obtain ⟨m, exported, hexport⟩ : ∃ m exported,
      (Build.exporting ⟨{}, validate_default⟩ (authoredTable calls)).outcome
        { Workspace.empty with events } = (.ok m, exported) :=
    exists_exportTable hwrite fun _ text => ⟨_, rfl⟩
  rcases Build.exists_finish _ hexport with ⟨report, after, hfinish⟩
  exact ⟨report, after, hout.trans hfinish⟩

/-- The default build in an empty directory, and one whose output path is a blank. -/
theorem default_build_is_read_back :
    (∃ table report after,
      (buildRuleSet .world false).outcome = .ok table ∧
        (CompileCommand.build {}).outcome Workspace.empty = (.ok report, after) ∧
          FileSystem.empty.ChangesOnly ["rules.bin", manifestPath "rules.bin"] after.files ∧
            (readTable "rules.bin").outcome after = (.ok table, after) ∧
              (verifyManifest "rules.bin" report.manifest).outcome after = (.ok table, after) ∧
                (readDocument (manifestPath "rules.bin")).outcome after =
                  (.ok report.manifest, after)) ∧
      (CompileCommand.build { exports := { output := " " } }).outcome Workspace.empty =
        (.error (.config .emptyOutput), Workspace.empty) := by
  constructor
  · rcases exists_default_build with ⟨report, after, hbuild⟩
    rcases build_writes_what_it_compiles {} Workspace.empty with
      ⟨_, hframe, table, htable, hwritten⟩
    rcases hwritten report after hbuild with ⟨_, _, _, _, _, hread, hverify, hdocument⟩
    rw [hbuild] at hframe
    exact ⟨table, report, after, htable, hbuild, hframe, hread, hverify, hdocument rfl⟩
  · exact (build_writes_what_it_compiles _ Workspace.empty).1 .emptyOutput rfl

end TileRules
