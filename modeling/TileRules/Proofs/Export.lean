import TileRules.Proofs.Files
import TileRules.Proofs.TableBytes
import TileRules.Proofs.Workspace

/-!
# Export — which tables read back from their files

A reader tells a compressed file from a raw one by its first two bytes. So a compressed table always
reads back, however it was packed, and a raw one reads back unless its bytes happen to open like a
gzip member: then the reader unpacks them, and finds the table only if the table is the packed form
of itself.

- `outcome_writeTable` and `outcome_readTable` are the two runs;
- `wordsOfFile_of_decompress` and `decompress_of_wordsOfFile`: a file gives the words of a table
  exactly if it decompresses to the bytes of the table;
- `written_table_reads_back_iff` says for every authored table whether it reads back, in terms of
  the draft that comes first for tile type 0;
- `raw_lookalike_is_lost` is a run in which one does not.
-/

namespace TileRules

open Layout

/-! ## Runs -/

/-- What a file gives when it is read as a table. -/
def tableOfFile (path : String) (file : List UInt8) : Except StorageError RuleTable := do
  let words ← wordsOfFile path file
  (RuleTable.fromWords words).mapError .rule

theorem outcome_writeTable [Gzip.Packer] (path : String) (t : RuleTable) (compress : Bool)
    (w : Workspace) :
    (writeTable path t compress).outcome w =
      match w.files.writeBytes path (fileBytes t.toBytes compress) with
      | .ok files =>
          (.ok (), { w with
            files
            events := w.events.push (.tableWritten path compress t.toBytes.length) })
      | .error fault =>
          (.error (.context s!"writing table to {Text.quoted path}" (.fileSystem fault)), w) := by
  rw [writeTable, Running.outcome_bind, Running.outcome_doing, Running.outcome_writeBytes]
  cases w.files.writeBytes path (fileBytes t.toBytes compress) <;> rfl

theorem outcome_readWords {path : String} {w : Workspace} {file : List UInt8}
    (h : w.files.readBytes path = .ok file) :
    (readWords path).outcome w = (wordsOfFile path file, w) := by
  rw [readWords, Running.outcome_bind, Running.outcome_doing, Running.outcome_readBytes, h]
  exact Running.outcome_ofExcept _ w

theorem outcome_readTable {path : String} {w : Workspace} {file : List UInt8}
    (h : w.files.readBytes path = .ok file) :
    (readTable path).outcome w = (tableOfFile path file, w) := by
  rw [readTable, Running.outcome_bind, outcome_readWords h, tableOfFile]
  cases wordsOfFile path file with
  | error e =>
      rfl
  | ok words =>
      exact Running.outcome_ofExcept _ w

/-- A table that was written is in its file, and the clock was not read. -/
theorem writeTable_cases [Gzip.Packer] {path : String} {t : RuleTable} {compress : Bool}
    {before after : Workspace} (h : (writeTable path t compress).outcome before = (.ok (), after)) :
    before.files.writeBytes path (fileBytes t.toBytes compress) = .ok after.files ∧
      after.clock = before.clock := by
  rw [outcome_writeTable] at h
  cases hwrite : before.files.writeBytes path (fileBytes t.toBytes compress) with
  | error fault =>
      rw [hwrite] at h
      cases h
  | ok files =>
      rw [hwrite] at h
      cases h
      exact ⟨rfl, rfl⟩

theorem readBytes_of_writeTable [Gzip.Packer] {path : String} {t : RuleTable} {compress : Bool}
    {before after : Workspace} (h : (writeTable path t compress).outcome before = (.ok (), after)) :
    after.files.readBytes path = .ok (fileBytes t.toBytes compress) :=
  FileSystem.readBytes_writeBytes (writeTable_cases h).1

/-! ## Files of a table -/

section Files

variable {path : String} {t found : RuleTable} {file : List UInt8}

theorem wordsOfFile_of_decompress (h : decompress file = .ok t.toBytes) :
    wordsOfFile path file = .ok t.words.toArray := by
  rw [wordsOfFile, bind_of_ok h, if_pos (length_toBytes t), wordsOfBytes_toBytes]
  rfl

theorem tableOfFile_of_decompress (h : decompress file = .ok t.toBytes) :
    tableOfFile path file =
      .ok { words := t.words, counts := Vector.ofFn (RuleTable.usedSlots t.words) } := by
  rw [tableOfFile, bind_of_ok (wordsOfFile_of_decompress h), RuleTable.fromWords_toArray]
  rfl

theorem mapError_eq_ok {α ε δ : Type} {f : ε → δ} {r : Except ε α} {a : α} :
    r.mapError f = .ok a ↔ r = .ok a := by
  cases r with
  | error e =>
      constructor <;> intro h <;> cases h
  | ok b =>
      constructor <;> intro h <;> cases h <;> rfl

theorem decompress_of_wordsOfFile (h : wordsOfFile path file = .ok t.words.toArray) :
    decompress file = .ok t.toBytes := by
  rw [wordsOfFile] at h
  obtain ⟨bytes, hbytes, hwords⟩ := bind_eq_ok.1 h
  by_cases hlength : bytes.length = tableBytes
  · rw [if_pos hlength] at hwords
    -- The words come from the bytes, and give these bytes back.
    have hback := bytesOfWords_wordsOfBytes 16384 #[] hlength
    rw [Except.ok.inj hwords] at hback
    rw [hbytes]
    exact congrArg Except.ok hback.symm
  · rw [if_neg hlength] at hwords
    cases hwords

theorem decompress_of_tableOfFile (h : tableOfFile path file = .ok found)
    (hwords : found.words = t.words) : decompress file = .ok t.toBytes := by
  rw [tableOfFile] at h
  obtain ⟨words, hfile, htable⟩ := bind_eq_ok.1 h
  obtain ⟨hsame, _⟩ := RuleTable.fromWords_eq_ok_iff.1 (mapError_eq_ok.1 htable)
  rw [← hsame, hwords] at hfile
  exact decompress_of_wordsOfFile hfile

theorem decompress_eq_ok_iff {bytes : List UInt8} :
    decompress file = .ok bytes ↔
      if Gzip.isMember file = true then Gzip.decode file = .ok bytes else file = bytes := by
  rw [decompress]
  split
  · exact mapError_eq_ok
  · exact ⟨Except.ok.inj, congrArg Except.ok⟩

/-- A compressed table is told by its magic bytes, and unpacks to what was packed. -/
theorem decompress_packed [Gzip.Packer] [Gzip.LawfulPacker] (t : RuleTable) :
    decompress (fileBytes t.toBytes true) = .ok t.toBytes := by
  rw [fileBytes, if_pos rfl, decompress, if_pos (Gzip.LawfulPacker.isMember_pack _),
    Gzip.LawfulPacker.decode_pack]
  rfl

theorem decompress_fileBytes_iff [Gzip.Packer] [Gzip.LawfulPacker] (t : RuleTable)
    (compress : Bool) :
    decompress (fileBytes t.toBytes compress) = .ok t.toBytes ↔
      compress = true ∨ ¬ Gzip.isMember t.toBytes = true ∨
        Gzip.decode t.toBytes = .ok t.toBytes := by
  cases compress with
  | true =>
      exact iff_of_true (decompress_packed t) (Or.inl rfl)
  | false =>
      rw [fileBytes, if_neg Bool.false_ne_true, decompress_eq_ok_iff]
      by_cases hmember : Gzip.isMember t.toBytes = true
      · rw [if_pos hmember]
        simp [hmember]
      · rw [if_neg hmember]
        simp [hmember]

/-- The third byte of a gzip member names the method of packing, and only one is known. -/
theorem decompress_of_method [Gzip.Packer] {word : UInt32} (hword : t.firstWord = word)
    (hopens : word.toNat % 65536 = 0x8b1f) (hmethod : (word >>> 16).toUInt8 ≠ 8) :
    decompress (fileBytes t.toBytes false) = .error (.compression (.gzip .header)) := by
  obtain ⟨rest, hbytes, hrest⟩ := toBytes_eq t
  have hlength : 6 ≤ rest.length := by omega
  have hmember : Gzip.isMember t.toBytes = true := by
    rw [isMember_toBytes, hword, hopens]
  have hdecode : Gzip.decode t.toBytes = .error .header := by
    rw [hbytes, hword, RuleTable.wordBytes, List.cons_append, List.cons_append, List.cons_append,
      List.cons_append, List.nil_append, Gzip.decode_of_method hmethod hlength]
  rw [fileBytes, if_neg Bool.false_ne_true, decompress, if_pos hmember, hdecode]
  rfl

end Files

/-- Whatever tables are packed with, one that was written reads back exactly if it was compressed,
if no draft makes its bytes open like a gzip member, or if its bytes unpack to themselves. -/
theorem written_table_reads_back_iff [Gzip.Packer] [Gzip.LawfulPacker]
    (calls : List (UInt32 × Draft)) {path : String} {compress : Bool} {before after : Workspace}
    (hwritten : (writeTable path (authoredTable calls) compress).outcome before = (.ok (), after)) :
    (∃ found, (readTable path).outcome after = (.ok found, after) ∧
        found.words = (authoredTable calls).words) ↔
      compress = true ∨
        (¬ ∃ d, firstFor 0 calls = some d ∧ d.OpensLikeGzip) ∨
          Gzip.decode (authoredTable calls).toBytes = .ok (authoredTable calls).toBytes := by
  -- The reader finds what the writer left, so all depends on how that decompresses.
  have hread := outcome_readTable (readBytes_of_writeTable hwritten)
  rw [← isMember_authored, ← decompress_fileBytes_iff, hread]
  constructor
  · rintro ⟨found, htable, hwords⟩
    exact decompress_of_tableOfFile (congrArg Prod.fst htable) hwords
  · intro hfile
    exact ⟨_, congrArg (·, after) (tableOfFile_of_decompress hfile), rfl⟩

/-! ## A table that is lost -/

theorem outcome_writeTable_empty [Gzip.Packer] (t : RuleTable) (compress : Bool) :
    ∃ after, (writeTable "rules.bin" t compress).outcome Workspace.empty = (.ok (), after) := by
  have hwrite : Workspace.empty.files.writeBytes "rules.bin" (fileBytes t.toBytes compress) =
      .ok (FileSystem.empty.insert ["rules.bin"] (.file (fileBytes t.toBytes compress))) :=
    rfl
  rw [outcome_writeTable, hwrite]
  exact ⟨_, rfl⟩

/-- Result tile 31 and bias 8, with a first condition of value −14 under an OR. -/
def lookalike : Draft :=
  { resultTile := 31
    bias := 8
    additions := [⟨.op .or (.tileAt 1 0 1) (.tileAt 2 4 1), -14, .truncate⟩] }

theorem firstWord_lookalike : (authoredTable [(0, lookalike)]).firstWord = 0x8b1f := by
  rw [← header_firstBlock, firstBlock_authored]
  decide

theorem packed_lookalike_reads_back :
    ∃ after,
      (writeTable "rules.bin" (authoredTable [(0, lookalike)]) true).outcome Workspace.empty =
          (.ok (), after) ∧
        ∃ found, (readTable "rules.bin").outcome after = (.ok found, after) ∧
          found.words = (authoredTable [(0, lookalike)]).words := by
  obtain ⟨after, hwritten⟩ := outcome_writeTable_empty (authoredTable [(0, lookalike)]) true
  exact ⟨after, hwritten, (written_table_reads_back_iff _ hwritten).2 (Or.inl rfl)⟩

theorem raw_lookalike_is_lost :
    ∃ after,
      (writeTable "rules.bin" (authoredTable [(0, lookalike)]) false).outcome Workspace.empty =
          (.ok (), after) ∧
        (readTable "rules.bin").outcome after = (.error (.compression (.gzip .header)), after) := by
  obtain ⟨after, hwritten⟩ := outcome_writeTable_empty (authoredTable [(0, lookalike)]) false
  refine ⟨after, hwritten, ?_⟩
  have hfile := decompress_of_method firstWord_lookalike rfl (by decide)
  rw [outcome_readTable (readBytes_of_writeTable hwritten), tableOfFile, wordsOfFile, hfile]
  rfl

end TileRules
