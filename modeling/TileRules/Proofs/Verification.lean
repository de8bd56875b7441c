import Mathlib.Data.List.GetD
import TileRules.Proofs.Loading

/-!
# Verification — which files a manifest vouches for

Checking a file against a manifest unpacks it, reads its words, and goes by the checksum, the shape
and the counts of the manifest. The checksum is taken of the words that were read, written as bytes
again, and these are the bytes of the file. So a manifest stands for bytes: it accepts those that it
describes, and gives the table that they are.

- `Manifest.Accepts` says which bytes a manifest accepts, and `Manifest.exists_describes_iff` that
  these are the bytes of the tables that it describes;
- `verifyManifest_cases` says everything that a check can do;
- `Text.Hex.encode_inj`: checksums only agree where digests do;
- `verification_accepts_described_files` puts them together: what passes for an exported table is
  that table, or has the same digest.
-/

namespace TileRules

open Layout

/-! ## Checksums -/

namespace Text.Hex

theorem value?_digit {n : Nat} (h : n < 16) : value? (digit n) = some n := by
  have hall : ∀ n : Fin 16, value? (digit n.val) = some n.val := by decide
  exact hall ⟨n, h⟩

theorem decodeFrom_digits (found bytes : List UInt8) :
    decodeFrom found (bytes.flatMap digits) = some (found.reverse ++ bytes) := by
  induction bytes generalizing found with
  | nil =>
      rw [List.flatMap_nil, decodeFrom, List.append_nil]
  | cons byte bytes ih =>
      have hbyte := byte.toNat_lt
      have hhigh : byte.toNat / 16 < 16 := by omega
      have hlow : byte.toNat % 16 < 16 := by omega
      have hsame : UInt8.ofNat (byte.toNat / 16 * 16 + byte.toNat % 16) = byte := by
        rw [Nat.div_add_mod', UInt8.ofNat_toNat]
      rw [List.flatMap_cons, digits, List.cons_append, List.cons_append, List.nil_append,
        decodeFrom, value?_digit hhigh, value?_digit hlow]
      dsimp only
      rw [hsame, ih, List.reverse_cons, List.append_assoc, List.singleton_append]

theorem bytes?_encode (bytes : List UInt8) : bytes? (encode bytes) = some bytes := by
  rw [bytes?, encode, String.toList_ofList, decodeFrom_digits, List.reverse_nil, List.nil_append]

theorem encode_inj {bytes bytes' : List UInt8} : encode bytes = encode bytes' ↔ bytes = bytes' := by
  constructor
  · intro h
    have hread := bytes?_encode bytes
    rw [h, bytes?_encode] at hread
    exact (Option.some.inj hread).symm
  · rintro rfl
    rfl

end Text.Hex

/-! ## Bytes as cells -/

/-- The cells that little-endian bytes stand for, four bytes for each. -/
def cellsOfBytes (bytes : List UInt8) : Vector UInt32 16384 :=
  Vector.ofFn fun cell =>
    let byte (k : Nat) : UInt8 := bytes.getD (4 * cell.val + k) 0
    wordOf (byte 0) (byte 1) (byte 2) (byte 3)

theorem getD_flatMap_wordBytes (words : List UInt32) {i k : Nat} (hi : i < words.length)
    (hk : k < 4) :
    (words.flatMap RuleTable.wordBytes).getD (4 * i + k) 0 =
      (RuleTable.wordBytes words[i]).getD k 0 := by
  induction words generalizing i with
  | nil =>
      exact absurd hi (Nat.not_lt_zero i)
  | cons word words ih =>
      have hlength : (RuleTable.wordBytes word).length = 4 := rfl
      rw [List.flatMap_cons]
      -- The bytes of the first word stand before those of all others.
      cases i with
      | zero =>
          rw [Nat.mul_zero, Nat.zero_add, List.getD_append _ _ _ _ (by omega)]
          rfl
      | succ i =>
          have hnext : 4 * (i + 1) + k - (RuleTable.wordBytes word).length = 4 * i + k := by omega
          rw [List.getD_append_right _ _ _ _ (by omega), hnext,
            ih (Nat.lt_of_succ_lt_succ hi)]
          rfl

theorem cellsOfBytes_toBytes (t : RuleTable) : cellsOfBytes t.toBytes = t.words := by
  apply Vector.ext
  intro i hi
  have hlist : i < t.words.toList.length := by rwa [Vector.length_toList]
  simp only [cellsOfBytes, RuleTable.toBytes, Vector.getElem_ofFn]
  rw [getD_flatMap_wordBytes _ hlist (by decide), getD_flatMap_wordBytes _ hlist (by decide),
    getD_flatMap_wordBytes _ hlist (by decide), getD_flatMap_wordBytes _ hlist (by decide),
    Vector.getElem_toList]
  exact wordOf_bytes t.words[i]

/-- Bytes of the right number are the bytes of a table, with any counts. -/
theorem toBytes_cellsOfBytes {bytes : List UInt8} (h : bytes.length = 65536)
    (counts : Vector Nat 32) :
    RuleTable.toBytes { words := cellsOfBytes bytes, counts } = bytes := by
  have hback : bytesOfWords (wordsOfBytes #[] bytes) = bytes :=
    bytesOfWords_wordsOfBytes 16384 #[] h
  -- What a reader finds are as many words as a table has cells, so they make a table.
  have hsize : (wordsOfBytes #[] bytes).size = 16384 := by
    have hlength := congrArg List.length hback
    rw [bytesOfWords, length_flatMap_wordBytes, Array.length_toList, h] at hlength
    omega
  have htable : RuleTable.toBytes { words := ⟨wordsOfBytes #[] bytes, hsize⟩, counts } = bytes :=
    hback
  have hcells := cellsOfBytes_toBytes { words := ⟨wordsOfBytes #[] bytes, hsize⟩, counts }
  rw [htable] at hcells
  rw [hcells, htable]

theorem toBytes_inj {t u : RuleTable} : t.toBytes = u.toBytes ↔ t.words = u.words := by
  constructor
  · intro h
    rw [← cellsOfBytes_toBytes t, h, cellsOfBytes_toBytes]
  · intro h
    rw [RuleTable.toBytes, h, RuleTable.toBytes]

/-! ## Accepted bytes -/

/-- The bytes have the checksum of the manifest and fill a table of its shape, and every count of
the manifest goes with the blocks of its tile type. -/
structure Manifest.Accepts (m : Manifest) (bytes : List UInt8) : Prop where
  length : bytes.length = 65536
  sha256 : m.sha256 = checksum bytes
  width : m.width = 128
  height : m.height = 128
  counts : ∃ recorded : Vector Nat 32, recorded.toList = m.reactionCounts ∧
    ∀ tile, RuleTable.Covers (cellsOfBytes bytes) tile (recorded.get tile)

theorem Manifest.Describes.accepts {m : Manifest} {t : RuleTable} (h : m.Describes t) :
    m.Accepts t.toBytes where
  length := length_toBytes t
  sha256 := h.sha256
  width := h.width
  height := h.height
  counts := by
    refine ⟨t.counts, h.counts.symm, ?_⟩
    rw [cellsOfBytes_toBytes]
    exact h.covered

theorem Manifest.exists_describes_iff {m : Manifest} {bytes : List UInt8} :
    (∃ t, m.Describes t ∧ t.toBytes = bytes) ↔ m.Accepts bytes := by
  constructor
  · rintro ⟨t, ht, rfl⟩
    exact ht.accepts
  · intro h
    obtain ⟨recorded, hlist, hcovers⟩ := h.counts
    have hbytes := toBytes_cellsOfBytes h.length recorded
    refine ⟨{ words := cellsOfBytes bytes, counts := recorded }, ?_, hbytes⟩
    exact {
      sha256 := by rw [hbytes, h.sha256]
      width := h.width
      height := h.height
      counts := hlist.symm
      covered := hcovers }

/-! ## Runs -/

section Runs

variable (path : String) (m : Manifest) (w : Workspace)

/-- Everything that a check can do. It changes nothing, and gives a table only if the file holds the
bytes of the table and the manifest describes it. -/
theorem verifyManifest_cases :
    (∃ e, (verifyManifest path m).outcome w = (.error e, w)) ∨
      ∃ t file, (verifyManifest path m).outcome w = (.ok t, w) ∧
        w.files.readBytes path = .ok file ∧ decompress file = .ok t.toBytes ∧ m.Describes t := by
  rw [verifyManifest, Running.outcome_bind]
  cases hread : w.files.readBytes path with
  | error fault =>
      left
      rw [readWords, Running.outcome_bind, Running.outcome_doing, Running.outcome_readBytes, hread]
      exact ⟨_, rfl⟩
  | ok file =>
      rw [outcome_readWords hread]
      cases hwords : wordsOfFile path file with
      | error e =>
          exact .inl ⟨e, rfl⟩
      | ok words =>
          dsimp only
          rw [Running.outcome_ofExcept]
          cases hcheck : checkManifest words m with
          | error e =>
              exact .inl ⟨e, rfl⟩
          | ok t =>
              obtain ⟨rfl, hm⟩ := checkManifest_eq_ok_iff.1 hcheck
              exact .inr ⟨t, file, rfl, rfl, decompress_of_wordsOfFile hwords, hm⟩

theorem verifyManifest_eq_ok {t : RuleTable} {file : List UInt8}
    (hread : w.files.readBytes path = .ok file) (hfile : decompress file = .ok t.toBytes)
    (hm : m.Describes t) : (verifyManifest path m).outcome w = (.ok t, w) := by
  rw [outcome_verifyManifest hread hfile, checkManifest_eq_ok_iff.2 ⟨rfl, hm⟩]

end Runs

/-- A file passes the check against a manifest exactly if it holds bytes that the manifest accepts,
and the check then gives the table of these bytes, with the counts of the manifest. Whatever stands
in the place of an exported table is refused, or is that table, or has the same digest. -/
theorem verification_accepts_described_files (path : String) (m : Manifest) (w : Workspace) :
    ((∃ t, (verifyManifest path m).outcome w = (.ok t, w)) ↔
      ∃ file bytes, w.files.readBytes path = .ok file ∧
        (if Gzip.isMember file = true then Gzip.decode file = .ok bytes else file = bytes) ∧
          m.Accepts bytes) ∧
      (∀ t after, (verifyManifest path m).outcome w = (.ok t, after) →
        after = w ∧ t.counts.toList = m.reactionCounts ∧
          ∃ file, w.files.readBytes path = .ok file ∧
            if Gzip.isMember file = true then Gzip.decode file = .ok t.toBytes
            else file = t.toBytes) ∧
      ∀ (original : RuleTable) (compressed : Bool) (configFingerprint : Option String)
        (now : Timestamp),
        m = Manifest.describe original compressed configFingerprint now →
          (∃ e, (verifyManifest path m).outcome w = (.error e, w)) ∨
            (verifyManifest path m).outcome w = (.ok original, w) ∨
              ∃ t, (verifyManifest path m).outcome w = (.ok t, w) ∧
                t.toBytes ≠ original.toBytes ∧
                  Sha256.digest t.toBytes = Sha256.digest original.toBytes := by
  refine ⟨?_, ?_, ?_⟩
  · constructor
    · rintro ⟨t, ht⟩
      rcases verifyManifest_cases path m w with ⟨e, hfail⟩ | ⟨u, file, _, hread, hfile, hm⟩
      · rw [hfail] at ht
        cases ht
      · exact ⟨file, u.toBytes, hread, decompress_eq_ok_iff.1 hfile, hm.accepts⟩
    · rintro ⟨file, bytes, hread, hfile, hm⟩
      obtain ⟨t, hdescribes, rfl⟩ := Manifest.exists_describes_iff.2 hm
      exact ⟨t, verifyManifest_eq_ok path m w hread (decompress_eq_ok_iff.2 hfile) hdescribes⟩
  · -- A run has one outcome, so the table is the one that the cases speak of.
    intro t after ht
    rcases verifyManifest_cases path m w with ⟨e, hfail⟩ | ⟨u, file, hok, hread, hfile, hm⟩
    · rw [hfail] at ht
      cases ht
    · rw [hok] at ht
      cases ht
      exact ⟨rfl, hm.counts.symm, file, hread, decompress_eq_ok_iff.1 hfile⟩
  · rintro original compressed configFingerprint now rfl
    rcases verifyManifest_cases path _ w with hfail | ⟨t, file, hok, _, _, hm⟩
    · exact .inl hfail
    · right
      by_cases hbytes : t.toBytes = original.toBytes
      · -- The words are those of the original, and the counts come from its manifest.
        left
        have hcounts : t.counts = original.counts := Vector.toList_inj.1 hm.counts.symm
        have hsame : t = original := by
          cases t
          cases original
          rw [RuleTable.mk.injEq]
          exact ⟨toBytes_inj.1 hbytes, hcounts⟩
        rw [hok, hsame]
      · -- Other bytes with the same checksum have the same digest.
        right
        have hsum : checksum original.toBytes = checksum t.toBytes := hm.sha256
        exact ⟨t, hok, hbytes, (Text.Hex.encode_inj.1 hsum).symm⟩

end TileRules
