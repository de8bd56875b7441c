import TileRules.Proofs.Export
import TileRules.Proofs.Lookalike
import TileRules.Proofs.Manifest
import TileRules.Proofs.Neighbour

/-!
# Loading — what an exported table gives when it is loaded

An export writes a table and perhaps a manifest next to it; a loader reads the table, and the
manifest too if it finds one. The manifest of a table describes it, so a table that was exported
with its manifest comes back with its counts. An export without a manifest leaves an old one where
it is, and then the loader still goes by the old one.

- `exportTable_cases` says everything that a successful export did to the files;
- `Manifest.Describes` is what the check against a manifest asks for (`checkManifest_eq_ok_iff`),
  and `describes_describe` holds of the tables that registrations can build;
- `exported_table_is_restored`: with its manifest a table comes back as it was;
- `exported_table_loads_iff` says when an exported table can be loaded, and
  `stale_manifest_blocks_loading` is a run in which it cannot.
-/

namespace TileRules

open Layout

/-! ## Documents in files -/

section Documents

variable {α : Type} [Document α] {path : String} {w before after : Workspace} {a : α}

/-- Reading a document changes nothing, and what it gives depends on the text of the file only. -/
theorem outcome_readDocument_eq_ok_iff :
    (readDocument path).outcome w = (.ok a, after) ↔
      (∃ text, w.files.readText path = .ok text ∧ Document.ofText text = .ok a) ∧ after = w := by
  rw [readDocument, Running.outcome_bind, Running.outcome_doing, Running.outcome_readText]
  cases w.files.readText path with
  | error fault =>
      refine iff_of_false (fun h => by cases h) ?_
      rintro ⟨⟨_, htext, _⟩, _⟩
      cases htext
  | ok text =>
      have hread : (Running.ofExcept (Document.ofText text)).outcome w = (.ok a, after) ↔
          Document.ofText text = .ok a ∧ after = w := by
        rw [Running.outcome_ofExcept, Prod.mk.injEq, eq_comm (a := w)]
      refine hread.trans (and_congr_left fun _ => ⟨fun ha => ⟨text, rfl, ha⟩, ?_⟩)
      rintro ⟨_, htext, ha⟩
      cases htext
      exact ha

theorem writeText_of_writeDocument
    (h : (writeDocument path a).outcome before = (.ok (), after)) :
    before.files.writeText path (Document.toText a) = .ok after.files := by
  rw [writeDocument, Running.outcome_doing, Running.outcome_writeBytes] at h
  rw [FileSystem.writeText]
  cases hwrite : before.files.writeBytes path (FileSystem.textBytes (Document.toText a)) with
  | ok files =>
      rw [hwrite] at h
      cases h
      rfl
  | error fault =>
      rw [hwrite] at h
      cases h

theorem readText_writeText {fs files : FileSystem} {text : String}
    (h : fs.writeText path text = .ok files) : files.readText path = .ok text := by
  rw [FileSystem.readText, bind_of_ok (FileSystem.readBytes_writeBytes h),
    FileSystem.fromUTF8?_textBytes]
  rfl

end Documents

/-! ## Exporting -/

section Exporting

variable [Gzip.Packer] {path : String} {t : RuleTable} {compress writeManifest : Bool}
  {configFingerprint : Option String} {m : Manifest} {before after : Workspace}

/-- Everything that a successful export did to the files. -/
theorem exportTable_cases
    (h : (exportTable path t compress writeManifest configFingerprint).outcome before =
      (.ok m, after)) :
    m = Manifest.describe t compress configFingerprint before.clock ∧
      ∃ files, before.files.writeBytes path (fileBytes t.toBytes compress) = .ok files ∧
        (writeManifest = true ∧
            files.writeText (manifestPath path) (Document.toText m) = .ok after.files ∨
          writeManifest = false ∧ after.files = files) := by
  rw [exportTable] at h
  -- The table is written first, and the clock is read behind it.
  obtain ⟨_, written, hwrite, h⟩ := Running.outcome_bind_eq_ok.1 h
  obtain ⟨hfiles, hclock⟩ := writeTable_cases hwrite
  rw [Running.outcome_bind_of_ok (Running.outcome_now _), hclock] at h
  dsimp only at h
  cases writeManifest with
  | true =>
      rw [if_pos rfl] at h
      obtain ⟨_, mid, hmanifest, h⟩ := Running.outcome_bind_eq_ok.1 h
      have htext := writeText_of_writeDocument hmanifest
      rw [Running.outcome_bind_of_ok (Running.outcome_report _ _), Running.outcome_pure] at h
      cases h
      exact ⟨rfl, written.files, hfiles, Or.inl ⟨rfl, htext⟩⟩
  | false =>
      rw [if_neg Bool.false_ne_true, Running.outcome_pure] at h
      cases h
      exact ⟨rfl, written.files, hfiles, Or.inr ⟨rfl, rfl⟩⟩

end Exporting

/-! ## Checking against a manifest -/

/-- A manifest has the checksum, the shape and the counts of a table, and these cover its blocks. -/
structure Manifest.Describes (m : Manifest) (t : RuleTable) : Prop where
  sha256 : m.sha256 = checksum t.toBytes
  width : m.width = tableWidth
  height : m.height = tableHeight
  counts : m.reactionCounts = t.counts.toList
  covered : t.Covered

section Checking

variable {path : String} {t found : RuleTable} {file : List UInt8} {m : Manifest} {w : Workspace}

theorem describes_describe (h : t.Covered) (compressed : Bool) (configFingerprint : Option String)
    (now : Timestamp) : (Manifest.describe t compressed configFingerprint now).Describes t where
  sha256 := rfl
  width := rfl
  height := rfl
  counts := rfl
  covered := h

theorem checkManifest_eq_ok_iff {words : Array UInt32} :
    checkManifest words m = .ok found ↔ found.words.toArray = words ∧ m.Describes found := by
  have hbytes : bytesOfWords found.words.toArray = found.toBytes := rfl
  constructor
  · intro h
    rw [checkManifest] at h
    split at h
    · cases h
    · rename_i hsum
      split at h
      · cases h
      · rename_i hshape
        rw [mapError_eq_ok, RuleTable.fromWordsWithCounts_eq_ok_iff] at h
        obtain ⟨rfl, hcounts, hcovered⟩ := h
        obtain ⟨hwidth, hheight⟩ := not_or.1 hshape
        exact ⟨rfl, {
          sha256 := (Decidable.not_not.1 hsum).symm
          width := Decidable.not_not.1 hwidth
          height := Decidable.not_not.1 hheight
          counts := hcounts.symm
          covered := hcovered }⟩
  · rintro ⟨rfl, hm⟩
    have hsum : ¬ checksum (bytesOfWords found.words.toArray) ≠ m.sha256 := by
      rw [hbytes]
      exact fun hne => hne hm.sha256.symm
    have hshape : ¬ (m.width ≠ tableWidth ∨ m.height ≠ tableHeight) :=
      not_or.2 ⟨fun hne => hne hm.width, fun hne => hne hm.height⟩
    rw [checkManifest, if_neg hsum, if_neg hshape, mapError_eq_ok,
      RuleTable.fromWordsWithCounts_eq_ok_iff]
    exact ⟨rfl, hm.counts.symm, hm.covered⟩

/-- Counts that do not go with the blocks are refused, whether the checksum has changed or not. -/
theorem checkManifest_of_counts {fault : RuleError} (hwidth : m.width = tableWidth)
    (hheight : m.height = tableHeight)
    (hcounts : RuleTable.fromWordsWithCounts t.words.toArray m.reactionCounts = .error fault) :
    checkManifest t.words.toArray m =
      .error (if checksum t.toBytes = m.sha256 then .rule fault
        else .validation (.checksumMismatch m.sha256 (checksum t.toBytes))) := by
  have hbytes : bytesOfWords t.words.toArray = t.toBytes := rfl
  have hshape : ¬ (m.width ≠ tableWidth ∨ m.height ≠ tableHeight) :=
    not_or.2 ⟨fun hne => hne hwidth, fun hne => hne hheight⟩
  rw [checkManifest, hbytes]
  by_cases hsum : checksum t.toBytes = m.sha256
  · rw [if_neg (not_not_intro hsum), if_neg hshape, hcounts, if_pos hsum]
    rfl
  · rw [if_pos hsum, if_neg hsum]

theorem outcome_verifyManifest (hread : w.files.readBytes path = .ok file)
    (hfile : decompress file = .ok t.toBytes) :
    (verifyManifest path m).outcome w = (checkManifest t.words.toArray m, w) := by
  rw [verifyManifest, Running.outcome_bind, outcome_readWords hread,
    wordsOfFile_of_decompress hfile]
  exact Running.outcome_ofExcept _ w

end Checking

/-! ## Loading -/

section Loading

variable {path : String} {t : RuleTable} {file : List UInt8} {w : Workspace}

theorem outcome_loadTable_of_contains (h : w.files.contains (manifestPath path) = true)
    {found : RuleTable × Option Manifest} :
    (loadTable path).outcome w = (.ok found, w) ↔
      ∃ m u, (readDocument (manifestPath path)).outcome w = (.ok m, w) ∧
        (verifyManifest path m).outcome w = (.ok u, w) ∧ found = (u, some m) := by
  rw [loadTable, Running.outcome_bind_of_ok (Running.outcome_contains _ _), h, if_pos rfl,
    Running.outcome_bind_eq_ok]
  constructor
  · rintro ⟨m, mid, hm, hnext⟩
    obtain ⟨_, rfl⟩ := outcome_readDocument_eq_ok_iff.1 hm
    obtain ⟨u, mid, hu, hnext⟩ := Running.outcome_bind_eq_ok.1 hnext
    rw [Running.outcome_pure] at hnext
    cases hnext
    exact ⟨m, u, hm, hu, rfl⟩
  · rintro ⟨m, u, hm, hu, rfl⟩
    exact ⟨m, w, hm, Running.outcome_bind_of_ok hu _⟩

/-- A manifest that can be read decides on its own. -/
theorem outcome_loadTable_of_text {text : String} {m : Manifest}
    (htext : w.files.readText (manifestPath path) = .ok text) (hm : Document.ofText text = .ok m)
    (hread : w.files.readBytes path = .ok file) (hfile : decompress file = .ok t.toBytes) :
    (loadTable path).outcome w =
      ((checkManifest t.words.toArray m).map fun found => (found, some m), w) := by
  have hdocument : (readDocument (manifestPath path)).outcome w = (.ok m, w) :=
    outcome_readDocument_eq_ok_iff.2 ⟨⟨text, htext, hm⟩, rfl⟩
  rw [loadTable, Running.outcome_bind_of_ok (Running.outcome_contains _ _),
    FileSystem.contains_of_readText htext, if_pos rfl, Running.outcome_bind_of_ok hdocument,
    Running.outcome_bind, outcome_verifyManifest hread hfile]
  cases checkManifest t.words.toArray m <;> rfl

theorem outcome_loadTable_of_not_contains (h : w.files.contains (manifestPath path) = false)
    (hread : w.files.readBytes path = .ok file) (hfile : decompress file = .ok t.toBytes) :
    ∃ found, (loadTable path).outcome w = (.ok found, w) ∧ found.1.words = t.words := by
  have htable := outcome_readTable hread
  rw [tableOfFile_of_decompress hfile] at htable
  rw [loadTable, Running.outcome_bind_of_ok (Running.outcome_contains _ _), h,
    if_neg Bool.false_ne_true, Running.outcome_bind_of_ok htable, Running.outcome_pure]
  exact ⟨_, rfl, rfl⟩

/-- A table can be loaded from its file if no manifest is next to it, or one that describes a table
with the same words. -/
theorem loadTable_eq_ok_iff (hread : w.files.readBytes path = .ok file)
    (hfile : decompress file = .ok t.toBytes) :
    (∃ found, (loadTable path).outcome w = (.ok found, w) ∧ found.1.words = t.words) ↔
      w.files.contains (manifestPath path) = false ∨
        ∃ m u, (readDocument (manifestPath path)).outcome w = (.ok m, w) ∧
          Manifest.Describes m u ∧ u.words = t.words := by
  cases hcontains : w.files.contains (manifestPath path) with
  | false =>
      exact iff_of_true (outcome_loadTable_of_not_contains hcontains hread hfile) (Or.inl rfl)
  | true =>
      -- The words are those of the file, so a manifest can only add the counts.
      have hverify : ∀ m u, (verifyManifest path m).outcome w = (.ok u, w) ↔
          u.words = t.words ∧ m.Describes u := by
        intro m u
        rw [outcome_verifyManifest hread hfile, Prod.mk.injEq, and_iff_left rfl,
          checkManifest_eq_ok_iff, Vector.toArray_inj]
      constructor
      · rintro ⟨found, hload, hwords⟩
        obtain ⟨m, u, hm, hu, rfl⟩ := (outcome_loadTable_of_contains hcontains).1 hload
        exact Or.inr ⟨m, u, hm, ((hverify m u).1 hu).2, hwords⟩
      · rintro (hfalse | ⟨m, u, hm, hu, hwords⟩)
        · cases hfalse
        · exact ⟨(u, some m), (outcome_loadTable_of_contains hcontains).2
            ⟨m, u, hm, (hverify m u).2 ⟨hwords, hu⟩, rfl⟩, hwords⟩

end Loading

/-! ## Exported tables -/

theorem isEnding_manifest : FileSystem.IsEnding ".manifest.json" :=
  ⟨by decide, by decide⟩

section Exported

variable [Gzip.Packer] {path : String} {t : RuleTable} {compress writeManifest : Bool}
  {configFingerprint : Option String} {m : Manifest} {before after : Workspace}

/-- An exported table is in its file, whether a manifest was written behind it or not. -/
theorem readBytes_of_exportTable
    (h : (exportTable path t compress writeManifest configFingerprint).outcome before =
      (.ok m, after)) :
    after.files.readBytes path = .ok (fileBytes t.toBytes compress) := by
  obtain ⟨_, files, hwrite, hmanifest⟩ := exportTable_cases h
  have hread := FileSystem.readBytes_writeBytes hwrite
  rcases hmanifest with ⟨_, hmanifest⟩ | ⟨_, hsame⟩
  · -- The manifest is another file in the same directory.
    obtain ⟨_, hplain, _⟩ := FileSystem.writeBytes_cases hwrite
    exact FileSystem.readBytes_of_writeBytes_neighbour hplain isEnding_manifest hread hmanifest
  · rw [hsame, hread]

/-- The manifest that was written with a table is read back, and describes the table. -/
theorem readDocument_of_exportTable (hcovered : t.Covered)
    (h : (exportTable path t compress true configFingerprint).outcome before = (.ok m, after)) :
    (readDocument (manifestPath path)).outcome after = (.ok m, after) ∧ m.Describes t := by
  obtain ⟨rfl, files, _, ⟨_, hmanifest⟩ | ⟨hfalse, _⟩⟩ := exportTable_cases h
  · have hdocument := Manifest.ofText_toText
      (Manifest.sized_describe hcovered compress configFingerprint before.clock)
    exact ⟨outcome_readDocument_eq_ok_iff.2 ⟨⟨_, readText_writeText hmanifest, hdocument⟩, rfl⟩,
      describes_describe hcovered compress configFingerprint before.clock⟩
  · cases hfalse

/-- Without a manifest to write, nothing changes at its place. -/
theorem find_manifest_of_exportTable
    (h : (exportTable path t true false configFingerprint).outcome before = (.ok m, after)) :
    after.files.find (manifestPath path) = before.files.find (manifestPath path) := by
  obtain ⟨_, files, hwrite, ⟨hfalse, _⟩ | ⟨_, hsame⟩⟩ := exportTable_cases h
  · cases hfalse
  · rw [hsame]
    exact FileSystem.find_neighbour_of_writeBytes isEnding_manifest hwrite

/-- An export succeeds if its files can be written. -/
theorem exists_exportTable {files : FileSystem}
    (hwrite : before.files.writeBytes path (fileBytes t.toBytes compress) = .ok files)
    (hmanifest : writeManifest = true →
      ∀ text, ∃ written, files.writeText (manifestPath path) text = .ok written) :
    ∃ m after, (exportTable path t compress writeManifest configFingerprint).outcome before =
      (.ok m, after) := by
  have htable := outcome_writeTable path t compress before
  rw [hwrite] at htable
  rw [exportTable, Running.outcome_bind_of_ok htable,
    Running.outcome_bind_of_ok (Running.outcome_now _)]
  dsimp only
  cases writeManifest with
  | true =>
      obtain ⟨written, hwritten⟩ := hmanifest rfl (Document.toText
        (Manifest.describe t compress configFingerprint before.clock))
      rw [FileSystem.writeText] at hwritten
      rw [if_pos rfl, Running.outcome_bind, writeDocument, Running.outcome_doing,
        Running.outcome_writeBytes]
      dsimp only
      rw [hwritten]
      exact ⟨_, _, rfl⟩
  | false =>
      exact ⟨_, _, rfl⟩

theorem exists_exportTable_empty (t : RuleTable) (writeManifest : Bool) :
    ∃ m after, (exportTable "rules.bin" t true writeManifest none).outcome Workspace.empty =
      (.ok m, after) := by
  have hwrite : Workspace.empty.files.writeBytes "rules.bin" (fileBytes t.toBytes true) =
      .ok (FileSystem.empty.insert ["rules.bin"] (.file (fileBytes t.toBytes true))) :=
    rfl
  exact exists_exportTable hwrite fun _ text => ⟨_, rfl⟩

end Exported

/-- With its manifest next to it a table comes back as it was, with the counts of reactions that
look like unused slots, whatever it was packed with. -/
theorem exported_table_is_restored [Gzip.Packer] [Gzip.LawfulPacker] {source : RuleTable.Source}
    {start : RuleTable} (hstart : source.table = .ok start) (run : List (UInt32 × Reaction))
    {path : String} {configFingerprint : Option String} {m : Manifest} {before after : Workspace}
    (hexported : (exportTable path (attempts RuleTable.register start run) true true
      configFingerprint).outcome before = (.ok m, after)) :
    (readDocument (manifestPath path)).outcome after = (.ok m, after) ∧
      m.totalReactions = m.reactionCounts.foldr (· + ·) 0 ∧
        (verifyManifest path m).outcome after =
          (.ok (attempts RuleTable.register start run), after) := by
  -- Behind the counts there are only unused slots, whatever the table started from.
  have hcovered := (RuleTable.Source.covered hstart).attempts run
  obtain ⟨hdocument, hdescribes⟩ := readDocument_of_exportTable hcovered hexported
  obtain ⟨hm, _⟩ := exportTable_cases hexported
  refine ⟨hdocument, ?_, ?_⟩
  · rw [hm]
    rfl
  · rw [outcome_verifyManifest (readBytes_of_exportTable hexported) (decompress_packed _),
      checkManifest_eq_ok_iff.2 ⟨rfl, hdescribes⟩]

/-- Two reactions for tile type 3; the second one looks like an unused slot. -/
def lookalikeRun : List (UInt32 × Reaction) :=
  [(3, Reaction.new 7 (-2)), (3, Reaction.new 3 16)]

theorem exported_lookalike_is_restored :
    ∃ m after,
      (exportTable "rules.bin" (attempts RuleTable.register RuleTable.empty lookalikeRun) true true
          none).outcome Workspace.empty = (.ok m, after) ∧
        (readDocument (manifestPath "rules.bin")).outcome after = (.ok m, after) ∧
          m.totalReactions = m.reactionCounts.foldr (· + ·) 0 ∧
            (verifyManifest "rules.bin" m).outcome after =
              (.ok (attempts RuleTable.register RuleTable.empty lookalikeRun), after) := by
  obtain ⟨m, after, hexported⟩ := exists_exportTable_empty
    (attempts RuleTable.register RuleTable.empty lookalikeRun) true
  have hstart : RuleTable.Source.empty.table = .ok RuleTable.empty := rfl
  exact ⟨m, after, hexported, exported_table_is_restored hstart lookalikeRun hexported⟩

/-- An exported table can be loaded if its manifest was written with it, if there was no manifest
before, or if the one that was there happens to describe a table with the same words. -/
theorem exported_table_loads_iff [Gzip.Packer] [Gzip.LawfulPacker]
    (run : List (UInt32 × Reaction)) {path : String} {writeManifest : Bool}
    {configFingerprint : Option String} {m : Manifest} {before after : Workspace}
    (hexported : (exportTable path (RuleTable.ofRun run) true writeManifest
      configFingerprint).outcome before = (.ok m, after)) :
    (∃ found, (loadTable path).outcome after = (.ok found, after) ∧
        found.1.words = (RuleTable.ofRun run).words) ↔
      writeManifest = true ∨ before.files.contains (manifestPath path) = false ∨
        ∃ old u, (readDocument (manifestPath path)).outcome before = (.ok old, before) ∧
          Manifest.Describes old u ∧ u.words = (RuleTable.ofRun run).words := by
  rw [loadTable_eq_ok_iff (readBytes_of_exportTable hexported) (decompress_packed _)]
  cases writeManifest with
  | true =>
      have hcovered := RuleTable.covered_empty.attempts run
      obtain ⟨hdocument, hdescribes⟩ := readDocument_of_exportTable hcovered hexported
      exact iff_of_true (Or.inr ⟨m, _, hdocument, hdescribes, rfl⟩) (Or.inl rfl)
  | false =>
      -- The loader finds what was there before.
      have hfind := find_manifest_of_exportTable hexported
      have hdocument : ∀ old : Manifest,
          (readDocument (manifestPath path)).outcome after = (.ok old, after) ↔
            (readDocument (manifestPath path)).outcome before = (.ok old, before) := by
        intro old
        rw [outcome_readDocument_eq_ok_iff, outcome_readDocument_eq_ok_iff,
          FileSystem.readText_congr hfind, and_iff_left rfl, and_iff_left rfl]
      simp only [FileSystem.contains_congr hfind, hdocument, Bool.false_eq_true, false_or]

theorem manifested_table_loads :
    ∃ m after,
      (exportTable "rules.bin" (RuleTable.ofRun lookalikeRun) true true none).outcome
          Workspace.empty = (.ok m, after) ∧
        ∃ found, (loadTable "rules.bin").outcome after = (.ok found, after) ∧
          found.1.words = (RuleTable.ofRun lookalikeRun).words := by
  obtain ⟨m, after, hexported⟩ := exists_exportTable_empty (RuleTable.ofRun lookalikeRun) true
  exact ⟨m, after, hexported, (exported_table_loads_iff lookalikeRun hexported).2 (Or.inl rfl)⟩

/-! ## A table that cannot be loaded -/

/-- What is registered in the table that is exported first. -/
def earlierRun : List (UInt32 × Reaction) :=
  [(3, Reaction.new 7 (-2))]

/-- What is registered in the table that is exported to the same path behind it. -/
def laterRun : List (UInt32 × Reaction) :=
  [(4, Reaction.new 9 5)]

theorem registered_singleton (id : UInt32) (r : Reaction) {other : UInt32}
    (h : other.toNat < 32) : registered [(id, r)] other = if id = other then [r] else [] := by
  rw [registered_eq_take _ h, reactionsFor_cons]
  split <;> rfl

/-- The counts of the first table say nothing of the reaction in the second one. -/
theorem fromWordsWithCounts_stale :
    RuleTable.fromWordsWithCounts (RuleTable.ofRun laterRun).words.toArray
        (RuleTable.ofRun earlierRun).counts.toList =
      .error (.rangeViolation (.slotInUse 4 0 0)) := by
  have hearlier := RuleTable.represents_ofRun earlierRun
  have hlater := RuleTable.represents_ofRun laterRun
  have hfour : (4 : UInt32).toNat = (4 : Fin 32).val := rfl
  have hcount : (RuleTable.ofRun earlierRun).counts.get 4 = 0 := by
    have hread : (RuleTable.ofRun earlierRun).counts.get 4 = _ := hearlier.counts hfour
    rw [hread, earlierRun, registered_singleton _ _ (by decide)]
    rfl
  have hused : RuleTable.usedSlots (RuleTable.ofRun laterRun).words 4 = 1 := by
    have hseen := (hlater.usedSlots_eq_iff hfour).2
    rw [hlater.counts hfour, laterRun, registered_singleton _ _ (by decide)] at hseen
    refine (hseen fun r hr => ?_).symm
    cases hr
    decide
  have hfail : ¬ RuleTable.Covers (RuleTable.ofRun laterRun).words 4
      ((RuleTable.ofRun earlierRun).counts.get 4) := by
    rw [RuleTable.covers_iff, hused, hcount]
    decide
  rw [RuleTable.fromWordsWithCounts_of_not_covers hfail, RuleTable.countFault, hcount, hused]
  · rfl
  · -- The second table has nothing registered for the other tile types.
    intro tile hne
    have hid := RuleTable.toNat_ofNat_tile tile
    have hother : ¬ 4 = UInt32.ofNat tile.val := by
      intro heq
      rw [← heq] at hid
      exact hne (Fin.ext hid.symm)
    refine hlater.covers ?_ (Nat.le_trans (Nat.le_of_eq (hearlier.counts hid))
      (hearlier.length_le _))
    rw [laterRun, registered_singleton _ _ (by omega), if_neg hother]
    exact Nat.zero_le _

theorem exists_exportTable_again {earlier : RuleTable} {old : Manifest} {exported : Workspace}
    (h : (exportTable "rules.bin" earlier true true none).outcome Workspace.empty =
      (.ok old, exported)) (later : RuleTable) :
    ∃ m after,
      (exportTable "rules.bin" later true false none).outcome exported = (.ok m, after) := by
  obtain ⟨-, files, hwrite, ⟨-, hmanifest⟩ | ⟨hfalse, -⟩⟩ := exportTable_cases h
  · cases hwrite
    have hfiles := Except.ok.inj hmanifest
    have hagain : exported.files.writeBytes "rules.bin" (fileBytes later.toBytes true) =
        .ok (exported.files.insert ["rules.bin"] (.file (fileBytes later.toBytes true))) := by
      rw [← hfiles]
      rfl
    exact exists_exportTable hagain fun hfalse => absurd hfalse Bool.false_ne_true
  · cases hfalse

/-- Two exports to one path, of which only the first writes a manifest. The table in the file is
then not the one that the manifest is about, and it cannot be loaded. -/
theorem stale_manifest_blocks_loading :
    ∃ old m exported after,
      (exportTable "rules.bin" (RuleTable.ofRun earlierRun) true true none).outcome
          Workspace.empty = (.ok old, exported) ∧
        (exportTable "rules.bin" (RuleTable.ofRun laterRun) true false none).outcome exported =
          (.ok m, after) ∧
        (loadTable "rules.bin").outcome after =
          (.error (if checksum (RuleTable.ofRun laterRun).toBytes =
                checksum (RuleTable.ofRun earlierRun).toBytes then
              .rule (.rangeViolation (.slotInUse 4 0 0))
            else
              .validation (.checksumMismatch (checksum (RuleTable.ofRun earlierRun).toBytes)
                (checksum (RuleTable.ofRun laterRun).toBytes))), after) := by
  obtain ⟨old, exported, hearlier⟩ := exists_exportTable_empty (RuleTable.ofRun earlierRun) true
  obtain ⟨hdocument, hold⟩ :=
    readDocument_of_exportTable (RuleTable.covered_empty.attempts earlierRun) hearlier
  obtain ⟨m, after, hlater⟩ := exists_exportTable_again hearlier (RuleTable.ofRun laterRun)
  have hcounts : RuleTable.fromWordsWithCounts (RuleTable.ofRun laterRun).words.toArray
      old.reactionCounts = .error (.rangeViolation (.slotInUse 4 0 0)) := by
    rw [hold.counts]
    exact fromWordsWithCounts_stale
  refine ⟨old, m, exported, after, hearlier, hlater, ?_⟩
  -- The loader finds the manifest of the first export, although the table next to it is new.
  obtain ⟨⟨text, htext, hread⟩, -⟩ := outcome_readDocument_eq_ok_iff.1 hdocument
  rw [← FileSystem.readText_congr (find_manifest_of_exportTable hlater)] at htext
  rw [outcome_loadTable_of_text htext hread (readBytes_of_exportTable hlater)
    (decompress_packed _), checkManifest_of_counts hold.width hold.height hcounts, hold.sha256]
  rfl

end TileRules
