import TileRules.Export
import TileRules.Proofs.Decoding
import TileRules.Proofs.Gzip
import TileRules.Proofs.Import

/-!
# Table bytes — words as bytes, and how the bytes of a table open

A table goes into a file as the bytes of its words. Reading the bytes back gives the words, but a
reader first looks at the two bytes that the file opens with, and these belong to the reaction in
the first slot of tile type 0.

- `wordsOfBytes_toBytes`: the words of the bytes of a table are the words of the table;
- `isMember_toBytes`: the bytes open like a gzip member exactly if the first word ends in `8b1f`;
- `Draft.OpensLikeGzip` says which reactions have such a first word
  (`Draft.opensLikeGzip_iff`), and `isMember_authored` finds the one that decides for a table.
-/

namespace TileRules

open Layout

/-! ## Words as bytes -/

/-- The word of four bytes, the lowest first. -/
def wordOf (a b c d : UInt8) : UInt32 :=
  a.toUInt32 ||| (b.toUInt32 <<< 8) ||| (c.toUInt32 <<< 16) ||| (d.toUInt32 <<< 24)

theorem toNat_or_byte {low shift : UInt32} (byte : UInt8) (hshift : shift.toNat ≤ 24)
    (hlow : low.toNat < 2 ^ shift.toNat) :
    (low ||| (byte.toUInt32 <<< shift)).toNat = low.toNat + byte.toNat * 2 ^ shift.toNat := by
  have hroom : byte.toUInt32.toNat * 2 ^ shift.toNat < 2 ^ 32 := by
    calc byte.toUInt32.toNat * 2 ^ shift.toNat
        < 2 ^ 8 * 2 ^ shift.toNat := by
          rw [UInt8.toNat_toUInt32]
          exact Nat.mul_lt_mul_of_pos_right byte.toNat_lt (Nat.two_pow_pos _)
      _ = 2 ^ (8 + shift.toNat) := (Nat.pow_add 2 8 shift.toNat).symm
      _ ≤ 2 ^ 32 := Nat.pow_le_pow_right (by decide) (by omega)
  rw [UInt32.or_comm, toNat_shiftLeft_or (by omega) hlow hroom, UInt8.toNat_toUInt32, Nat.add_comm]

theorem toNat_wordOf (a b c d : UInt8) :
    (wordOf a b c d).toNat =
      a.toNat + b.toNat * 2 ^ 8 + c.toNat * 2 ^ 16 + d.toNat * 2 ^ 24 := by
  have ha : a.toUInt32.toNat = a.toNat := UInt8.toNat_toUInt32 a
  have hboundA := a.toNat_lt
  have hboundB := b.toNat_lt
  have hboundC := c.toNat_lt
  have htwo : (a.toUInt32 ||| (b.toUInt32 <<< 8)).toNat = a.toNat + b.toNat * 2 ^ 8 := by
    rw [toNat_or_byte b (by decide) (by rw [ha]; exact hboundA), ha]
    rfl
  have hthree : (a.toUInt32 ||| (b.toUInt32 <<< 8) ||| (c.toUInt32 <<< 16)).toNat =
      a.toNat + b.toNat * 2 ^ 8 + c.toNat * 2 ^ 16 := by
    have hroom : a.toNat + b.toNat * 2 ^ 8 < 2 ^ 16 := by omega
    rw [toNat_or_byte c (by decide) (by rw [htwo]; exact hroom), htwo]
    rfl
  have hroom : a.toNat + b.toNat * 2 ^ 8 + c.toNat * 2 ^ 16 < 2 ^ 24 := by omega
  rw [wordOf, toNat_or_byte d (by decide) (by rw [hthree]; exact hroom), hthree]
  rfl

theorem toNat_byte (word : UInt32) {shift : UInt32} (hshift : shift.toNat < 32) :
    (word >>> shift).toUInt8.toNat = word.toNat / 2 ^ shift.toNat % 2 ^ 8 := by
  rw [UInt32.toNat_toUInt8, toNat_shiftRight_of_lt hshift]

theorem wordOf_bytes (word : UInt32) :
    wordOf word.toUInt8 (word >>> 8).toUInt8 (word >>> 16).toUInt8 (word >>> 24).toUInt8 =
      word := by
  have hword := word.toNat_lt
  apply UInt32.toNat_inj.1
  rw [toNat_wordOf, UInt32.toNat_toUInt8, toNat_byte word (by decide), toNat_byte word (by decide),
    toNat_byte word (by decide), show (8 : UInt32).toNat = 8 from rfl,
    show (16 : UInt32).toNat = 16 from rfl, show (24 : UInt32).toNat = 24 from rfl]
  omega

theorem wordBytes_wordOf (a b c d : UInt8) :
    RuleTable.wordBytes (wordOf a b c d) = [a, b, c, d] := by
  have ha := a.toNat_lt
  have hb := b.toNat_lt
  have hc := c.toNat_lt
  have hd := d.toNat_lt
  apply (List.map_inj_right (fun _ _ h => UInt8.toNat_inj.1 h)).1
  simp only [RuleTable.wordBytes, List.map_cons, List.map_nil]
  rw [UInt32.toNat_toUInt8, toNat_byte _ (by decide), toNat_byte _ (by decide),
    toNat_byte _ (by decide), toNat_wordOf, show (8 : UInt32).toNat = 8 from rfl,
    show (16 : UInt32).toNat = 16 from rfl, show (24 : UInt32).toNat = 24 from rfl]
  simp only [List.cons.injEq, and_true]
  omega

theorem wordsOfBytes_wordBytes (found : Array UInt32) (words : List UInt32) :
    wordsOfBytes found (words.flatMap RuleTable.wordBytes) = found ++ words.toArray := by
  induction words generalizing found with
  | nil =>
      simp [wordsOfBytes]
  | cons word words ih =>
      have hstep : wordsOfBytes found ((word :: words).flatMap RuleTable.wordBytes) =
          wordsOfBytes (found.push word) (words.flatMap RuleTable.wordBytes) :=
        congrArg (fun w => wordsOfBytes (found.push w) (words.flatMap RuleTable.wordBytes))
          (wordOf_bytes word)
      rw [hstep, ih]
      simp

/-- Nothing is lost when the bytes are whole words. -/
theorem bytesOfWords_wordsOfBytes (n : Nat) (found : Array UInt32) {bytes : List UInt8}
    (h : bytes.length = n * 4) :
    bytesOfWords (wordsOfBytes found bytes) = bytesOfWords found ++ bytes := by
  induction n generalizing found bytes with
  | zero =>
      rw [List.eq_nil_of_length_eq_zero (h.trans (Nat.zero_mul 4)), List.append_nil]
      rfl
  | succ n ih =>
      rcases bytes with _ | ⟨a, _ | ⟨b, _ | ⟨c, _ | ⟨d, rest⟩⟩⟩⟩
      all_goals simp only [List.length_cons, List.length_nil] at h
      · omega
      · omega
      · omega
      · omega
      · have hword : bytesOfWords (found.push (wordOf a b c d)) =
            bytesOfWords found ++ [a, b, c, d] := by
          rw [bytesOfWords, Array.toList_push, List.flatMap_append, List.flatMap_singleton,
            wordBytes_wordOf]
          rfl
        show bytesOfWords (wordsOfBytes (found.push (wordOf a b c d)) rest) = _
        rw [ih _ (by omega), hword, List.append_assoc]
        rfl

theorem length_flatMap_wordBytes (words : List UInt32) :
    (words.flatMap RuleTable.wordBytes).length = words.length * 4 := by
  have hword : ∀ word, (RuleTable.wordBytes word).length = 4 := fun _ => rfl
  rw [List.length_flatMap]
  simp only [hword, List.map_const', List.sum_replicate_nat]

theorem length_toBytes (t : RuleTable) : t.toBytes.length = tableBytes := by
  rw [RuleTable.toBytes, length_flatMap_wordBytes, Vector.length_toList]
  rfl

theorem wordsOfBytes_toBytes (t : RuleTable) : wordsOfBytes #[] t.toBytes = t.words.toArray := by
  rw [RuleTable.toBytes, wordsOfBytes_wordBytes, Array.empty_append]
  exact t.words.toArray.toArray_toList

/-! ## How bytes open -/

theorem isMember_wordBytes (word : UInt32) (rest : List UInt8) :
    Gzip.isMember (RuleTable.wordBytes word ++ rest) = true ↔ word.toNat % 65536 = 0x8b1f := by
  have hfirst : (0x1f : UInt8) = word.toUInt8 ↔ word.toNat % 256 = 31 := by
    rw [← UInt8.toNat_inj, UInt32.toNat_toUInt8]
    exact eq_comm
  have hsecond : (0x8b : UInt8) = (word >>> 8).toUInt8 ↔ word.toNat / 2 ^ 8 % 256 = 139 := by
    rw [← UInt8.toNat_inj, UInt32.toNat_toUInt8, toNat_shiftRight_of_lt (by decide)]
    exact eq_comm
  simp only [Gzip.isMember, RuleTable.wordBytes, List.cons_append, List.isPrefixOf,
    Bool.and_eq_true, beq_iff_eq, hfirst, hsecond, and_true]
  omega

def RuleTable.firstWord (t : RuleTable) : UInt32 :=
  t.words.get 0

theorem toBytes_eq (t : RuleTable) :
    ∃ rest, t.toBytes = RuleTable.wordBytes t.firstWord ++ rest ∧ rest.length = 65532 := by
  have hlength := length_toBytes t
  have hpos : 0 < t.words.toList.length := by
    rw [Vector.length_toList]
    decide
  obtain ⟨word, words, hlist⟩ := List.exists_cons_of_length_pos hpos
  have hfirst : t.firstWord = word := by
    have hget : t.firstWord = t.words.toList[0] := (Vector.getElem_toList hpos).symm
    rw [hget]
    simp only [hlist, List.getElem_cons_zero]
  have hbytes : t.toBytes =
      RuleTable.wordBytes t.firstWord ++ words.flatMap RuleTable.wordBytes := by
    rw [RuleTable.toBytes, hlist, List.flatMap_cons, hfirst]
  refine ⟨_, hbytes, ?_⟩
  rw [hbytes, List.length_append, show (RuleTable.wordBytes t.firstWord).length = 4 from rfl,
    show tableBytes = 65536 from rfl] at hlength
  omega

theorem isMember_toBytes (t : RuleTable) :
    Gzip.isMember t.toBytes = true ↔ t.firstWord.toNat % 65536 = 0x8b1f := by
  obtain ⟨rest, hbytes, _⟩ := toBytes_eq t
  rw [hbytes, isMember_wordBytes]

/-! ## Which reactions open like a member -/

theorem Flat.modeBits_mod_four (f : Flat) : f.modeBits.toNat % 4 = (f.modes[0]).bits.toNat := by
  have hindex : 0 < (f.modes.toList.map Mode.bits).length := by
    simp
  have hfield := fieldAt_packFields f.fieldsFit_modes hindex
  rw [toNat_fieldAt (by decide), Nat.mul_zero, Nat.pow_zero, Nat.div_one, List.getElem_map,
    Vector.getElem_toList] at hfield
  exact hfield

theorem Mode.bits_odd (m : Mode) : m.bits.toNat % 2 = 1 ↔ m = .or ∨ m = .nand := by
  cases m <;> decide

/-- The operator at the root stands in the lowest mode field; a bare leaf counts as an AND. -/
theorem modeBits_ofTree_odd (tree : Condition) :
    (Flat.ofTree tree).modeBits.toNat % 2 = 1 ↔
      tree.mode? = some .or ∨ tree.mode? = some .nand := by
  have hfield := (Flat.ofTree tree).modeBits_mod_four
  have hodd := Mode.bits_odd (Flat.ofTree tree).modes[0]
  have hlow : (Flat.ofTree tree).modeBits.toNat % 2 = 1 ↔
      ((Flat.ofTree tree).modes[0]).bits.toNat % 2 = 1 := by
    omega
  rw [hlow, hodd, Flat.getElem_modes_ofTree tree (by decide), Condition.nodeAt_zero]
  cases tree with
  | leaf l =>
      simp [Condition.mode?]
  | op mode first second =>
      simp [Condition.mode?]

/-- What is authored where the block of a reaction opens with the bytes of a gzip member. -/
def Draft.OpensLikeGzip (d : Draft) : Prop :=
  d.resultTile % 32 = 31 ∧ d.bias % 32 = 8 ∧
    ∃ a, d.conditions.head? = some a ∧ a.value % 32 = 18 ∧
      (a.tree.mode? = some .or ∨ a.tree.mode? = some .nand)

theorem header_rowBefore_cons (a : Addition) (list : List Addition) :
    (rowBefore (a :: list) 0).header.toNat % 64 = 34 ↔
      a.value % 32 = 18 ∧ (a.tree.mode? = some .or ∨ a.tree.mode? = some .nand) := by
  have hheader : (rowBefore (a :: list) 0).header.toNat =
      (Flat.ofTree a.tree).modeBits.toNat * 32 + (storeValue a.value).toNat :=
    Row.header_pack (Flat.ofTree a.tree) a.value
  have hvalue := toNat_storeValue a.value
  rw [hheader, ← modeBits_ofTree_odd]
  omega

theorem Draft.opensLikeGzip_iff (d : Draft) :
    d.OpensLikeGzip ↔ d.reaction.block.firstHeader.toNat % 65536 = 0x8b1f := by
  have hheader := d.carries.toNat_header
  have hbias := toNat_storeValue d.bias
  have htile : d.resultTile % 32 = 31 ↔ d.resultTile.toNat % 32 = 31 := by
    rw [← UInt32.toNat_inj, UInt32.toNat_mod]
    rfl
  -- The two lowest bytes hold the result tile, the bias, the value and one bit of the root mode.
  have hsplit : d.reaction.block.firstHeader.toNat % 65536 = 0x8b1f ↔
      (rowBefore d.conditions 0).header.toNat % 64 = 34 ∧ d.bias % 32 = 8 ∧
        d.resultTile.toNat % 32 = 31 := by
    omega
  rw [OpensLikeGzip, hsplit, htile]
  cases d.conditions with
  | nil =>
      have hblank : (rowBefore [] 0).header.toNat = 16 := rfl
      simp [hblank]
  | cons a list =>
      rw [header_rowBefore_cons]
      constructor
      · rintro ⟨hresult, hb, b, hhead, hfirst⟩
        cases hhead
        exact ⟨hfirst, hb, hresult⟩
      · rintro ⟨hfirst, hb, hresult⟩
        exact ⟨hresult, hb, a, rfl, hfirst⟩

/-! ## Which tables open like a member -/

/-- The draft that comes first for a tile id. -/
def firstFor (id : UInt32) (calls : List (UInt32 × Draft)) : Option Draft :=
  (calls.find? (·.1 == id)).map (·.2)

/-- The table behind a run of registrations of authored reactions. -/
def authoredTable (calls : List (UInt32 × Draft)) : RuleTable :=
  RuleTable.ofRun (calls.map fun call => (call.1, call.2.reaction))

theorem reactionsFor_authored (id : UInt32) (calls : List (UInt32 × Draft)) :
    (reactionsFor id (calls.map fun call => (call.1, call.2.reaction)))[0]? =
      (firstFor id calls).map Draft.reaction := by
  induction calls with
  | nil =>
      rfl
  | cons call calls ih =>
      rw [List.map_cons, reactionsFor_cons, firstFor, List.find?_cons]
      by_cases h : call.1 = id
      · simp [h]
      · have hskip : (call.1 == id) = false := beq_eq_false_iff_ne.2 h
        rw [if_neg h, hskip, ih]
        rfl

theorem header_firstBlock (t : RuleTable) :
    (RuleTable.blockOf t.words 0 0).firstHeader = t.firstWord := by
  simp [Block.firstHeader, RuleTable.firstWord, RuleTable.blockOf, RuleTable.cellIndex,
    Flat.get_eq_getElem]

/-- The first block of the table is that of the first draft for tile type 0. -/
theorem firstBlock_authored (calls : List (UInt32 × Draft)) :
    RuleTable.blockOf (authoredTable calls).words 0 0 =
      (((firstFor 0 calls).map Draft.reaction).map Reaction.block).getD (noopBlock 0) := by
  have htile : (0 : UInt32).toNat = (0 : Fin 32).val := rfl
  have hblock := (RuleTable.represents_ofRun
    (calls.map fun call => (call.1, call.2.reaction))).blocks 0 htile
  rw [registered_eq_take _ (by decide), inSlot, List.getElem?_take_of_lt (by decide)] at hblock
  rw [← reactionsFor_authored]
  exact hblock

theorem isMember_authored (calls : List (UInt32 × Draft)) :
    Gzip.isMember (authoredTable calls).toBytes = true ↔
      ∃ d, firstFor 0 calls = some d ∧ d.OpensLikeGzip := by
  rw [isMember_toBytes, ← header_firstBlock, firstBlock_authored]
  cases firstFor 0 calls with
  | none =>
      have hnoop : (noopBlock 0).firstHeader.toNat % 65536 = 16384 := by decide
      simp [hnoop]
  | some d =>
      rw [Option.map_some, Option.map_some, Option.getD_some, ← d.opensLikeGzip_iff]
      simp

end TileRules
