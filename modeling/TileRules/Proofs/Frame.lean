import TileRules.Config
import TileRules.Export
import TileRules.Proofs.Files
import TileRules.Proofs.Workspace

/-!
# Frame — what a run leaves alone

A run may write the files at certain paths. Whatever its outcome, all other entries are then those
that were there before, and the directories are the same ones. So paths keep leading where they led,
and what two steps may change, one behind the other, they may change together.

- `FileSystem.ChangesOnly` relates the files before and behind a run, and is reflexive and
  transitive; `FileSystem.changesOnly_writeBytes` is one write;
- `Running.ChangesOnly` says so of a step in every workspace, and is closed under sequences;
- `changesOnly_exportTable`: an export changes its outputs only.
-/

namespace TileRules

/-! ## Files -/

/-- Nothing but files at these paths differs. -/
structure FileSystem.ChangesOnly (paths : List String) (fs after : FileSystem) : Prop where
  home : after.home = fs.home
  directories : ∀ place, after.entry? place = some .directory ↔ fs.entry? place = some .directory
  elsewhere : ∀ place, (∀ path ∈ paths, fs.place path ≠ .ok place) →
    after.entry? place = fs.entry? place

namespace FileSystem

variable {fs mid after : FileSystem} {paths more : List String} {path : String}

theorem ChangesOnly.refl (paths : List String) (fs : FileSystem) : fs.ChangesOnly paths fs :=
  ⟨rfl, fun _ => Iff.rfl, fun _ _ => rfl⟩

/-- A path leads where it led before. -/
theorem ChangesOnly.place_eq_ok_iff (h : fs.ChangesOnly paths after) (path : String)
    (place : FilePath) : after.place path = .ok place ↔ fs.place path = .ok place := by
  constructor
  · intro hplace
    exact place_mono h.home.symm (fun other => (h.directories other).1) hplace
  · intro hplace
    exact place_mono h.home (fun other => (h.directories other).2) hplace

theorem ChangesOnly.trans (h : fs.ChangesOnly paths mid) (hnext : mid.ChangesOnly paths after) :
    fs.ChangesOnly paths after where
  home := hnext.home.trans h.home
  directories place := (hnext.directories place).trans (h.directories place)
  elsewhere place helse := by
    -- The places of the paths have not moved in between.
    have hmid : ∀ path ∈ paths, mid.place path ≠ .ok place := by
      intro path hpath hplace
      exact helse path hpath ((h.place_eq_ok_iff path place).1 hplace)
    exact (hnext.elsewhere place hmid).trans (h.elsewhere place helse)

theorem ChangesOnly.mono (h : fs.ChangesOnly paths after) (hsub : paths ⊆ more) :
    fs.ChangesOnly more after where
  home := h.home
  directories := h.directories
  elsewhere place helse := h.elsewhere place fun path hpath => helse path (hsub hpath)

theorem changesOnly_writeBytes {bytes : List UInt8} (h : fs.writeBytes path bytes = .ok after) :
    fs.ChangesOnly [path] after := by
  obtain ⟨target, _, hplace, hfree, rfl⟩ := writeBytes_cases h
  have htarget := ne_nil_of_free hfree
  refine ⟨rfl, ?_, ?_⟩
  · intro place
    rw [entry?_insert htarget]
    by_cases hsame : place = target
    · -- There was no directory, and there is none now.
      subst hsame
      rw [if_pos rfl]
      exact iff_of_false (fun hfile => by cases hfile) hfree
    · rw [if_neg hsame]
  · intro place helse
    have hne : place ≠ target := by
      rintro rfl
      exact helse path (List.mem_singleton_self path) hplace
    rw [entry?_insert htarget, if_neg hne]

end FileSystem

/-! ## Steps -/

namespace Running

variable {α β ε δ : Type} {paths more : List String}

/-- Whatever the outcome, the step changes nothing but files at these paths. -/
def ChangesOnly (paths : List String) (step : Running ε α) : Prop :=
  ∀ w : Workspace, w.files.ChangesOnly paths (step.outcome w).2.files

/-- A step that does not write changes nothing. -/
theorem changesOnly_of_files_eq {step : Running ε α}
    (h : ∀ w, (step.outcome w).2.files = w.files) : step.ChangesOnly paths := by
  intro w
  rw [h w]
  exact FileSystem.ChangesOnly.refl paths w.files

theorem ChangesOnly.mono {step : Running ε α} (h : step.ChangesOnly paths) (hsub : paths ⊆ more) :
    step.ChangesOnly more :=
  fun w => (h w).mono hsub

theorem ChangesOnly.bind {step : Running ε α} {next : α → Running ε β}
    (hstep : step.ChangesOnly paths) (hnext : ∀ a, (next a).ChangesOnly paths) :
    (step >>= next).ChangesOnly paths := by
  intro w
  have hfirst := hstep w
  rw [outcome_bind]
  rcases hout : step.outcome w with ⟨r, mid⟩
  rw [hout] at hfirst
  cases r with
  | ok a =>
      exact hfirst.trans (hnext a mid)
  | error e =>
      exact hfirst

theorem ChangesOnly.mapError {step : Running ε α} (h : step.ChangesOnly paths) (f : ε → δ) :
    (step.mapError f).ChangesOnly paths := by
  intro w
  rw [outcome_mapError]
  exact h w

theorem changesOnly_writeBytes (path : String) (bytes : List UInt8) :
    (writeBytes path bytes).ChangesOnly [path] := by
  intro w
  rw [outcome_writeBytes]
  cases hwrite : w.files.writeBytes path bytes with
  | ok files =>
      exact FileSystem.changesOnly_writeBytes hwrite
  | error fault =>
      exact FileSystem.ChangesOnly.refl [path] w.files

end Running

/-! ## Exports -/

/-- The paths that an export writes to. -/
def ExportConfig.outputs (target : ExportConfig) : List String :=
  if target.writeManifest then [target.output, manifestPath target.output] else [target.output]

theorem changesOnly_writeTable [Gzip.Packer] (path : String) (t : RuleTable) (compress : Bool) :
    (writeTable path t compress).ChangesOnly [path] :=
  (((Running.changesOnly_writeBytes path _).mapError _).mapError _).bind fun _ =>
    Running.changesOnly_of_files_eq fun _ => rfl

theorem changesOnly_writeDocument {α : Type} [Document α] (path : String) (a : α) :
    (writeDocument path a).ChangesOnly [path] :=
  ((Running.changesOnly_writeBytes path _).mapError _).mapError _

theorem changesOnly_exportTable [Gzip.Packer] (target : ExportConfig) (t : RuleTable)
    (configFingerprint : Option String) :
    (exportTable target.output t target.compress target.writeManifest
      configFingerprint).ChangesOnly target.outputs := by
  have htable : [target.output] ⊆ target.outputs := by
    rw [ExportConfig.outputs]
    split <;> simp
  -- The table is written, the clock is read, and the manifest follows if it is asked for.
  refine ((changesOnly_writeTable _ t _).mono htable).bind fun _ => ?_
  refine (Running.changesOnly_of_files_eq fun _ => rfl).bind fun now => ?_
  dsimp only
  by_cases hmanifest : target.writeManifest = true
  · have hdocument : [manifestPath target.output] ⊆ target.outputs := by
      rw [ExportConfig.outputs, if_pos hmanifest]
      exact List.subset_cons_self _ _
    rw [if_pos hmanifest]
    refine ((changesOnly_writeDocument _ _).mono hdocument).bind fun _ => ?_
    exact Running.changesOnly_of_files_eq fun _ => rfl
  · rw [if_neg hmanifest]
    exact Running.changesOnly_of_files_eq fun _ => rfl

end TileRules
