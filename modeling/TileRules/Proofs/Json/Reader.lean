import TileRules.Proofs.Json.Grammar

/-!
# Json reader — every text of a document is read

The reader finds in a text the document that the grammar gives it, whatever the spelling, and stops
where the value ends.

- `joins_of_assemble` and `assemble_of_joins`: code points are joined as the grammar says;
- `SpellsString.readString` and `IsNumber.readNumber` read strings and literals;
- `Spells.reads` reads a value up to what ends it, by induction on the grammar;
- `parse?_of_spells`: a whole text that spells a document is read as this document.
-/

namespace TileRules
namespace Json

/-! ## Strings -/

section Strings

variable {codes : List Nat} {text chars : List Char}

/-- No character is a half of a surrogate pair. -/
theorem not_half_toNat (c : Char) : (isHighHalf c.toNat || isLowHalf c.toNat) = false := by
  have hvalid : c.toNat < 0xd800 ∨ 0xdfff < c.toNat ∧ c.toNat < 0x110000 := c.valid
  simp only [isHighHalf, isLowHalf, Bool.or_eq_false_iff, Bool.and_eq_false_iff,
    decide_eq_false_iff_not]
  omega

theorem toNat_ofNat {n : Nat} (h : n.isValidChar) : (Char.ofNat n).toNat = n := by
  rw [Char.ofNat, dif_pos h]
  rfl

theorem assemble_char (c : Char) (codes : List Nat) :
    assemble (c.toNat :: codes) = (assemble codes).map (c :: ·) := by
  have hhalf := not_half_toNat c
  cases codes with
  | nil =>
      rw [assemble.eq_2, if_neg (Bool.eq_false_iff.1 hhalf), Char.ofNat_toNat]
      rfl
  | cons n codes =>
      obtain ⟨hhigh, hlow⟩ := Bool.or_eq_false_iff.1 hhalf
      rw [assemble, if_neg (Bool.eq_false_iff.1 hhigh), if_neg (Bool.eq_false_iff.1 hlow),
        Char.ofNat_toNat]

theorem assemble_of_joins (h : Joins codes text) : assemble codes = some text := by
  induction h with
  | nil =>
      rfl
  | char c _ ih =>
      rw [assemble_char, ih]
      rfl
  | pair hhigh hlow hc _ ih =>
      rw [assemble, if_pos hhigh, if_pos hlow, ih, ← hc, Char.ofNat_toNat]
      rfl

/-- A code point that is no half of a pair is a character. -/
theorem exists_char {n : Nat} (hhigh : isHighHalf n = false) (hlow : isLowHalf n = false)
    (hlt : n < 0x110000) : ∃ c : Char, c.toNat = n := by
  simp only [isHighHalf, isLowHalf, Bool.and_eq_false_iff, decide_eq_false_iff_not] at hhigh hlow
  exact ⟨Char.ofNat n, toNat_ofNat (by rw [Nat.isValidChar]; omega)⟩

theorem joins_of_assemble (hlt : ∀ n ∈ codes, n < 0x110000) (h : assemble codes = some text) :
    Joins codes text := by
  fun_induction assemble codes generalizing text with
  | case1 =>
      cases h
      exact .nil
  | case2 n hhalf =>
      cases h
  | case3 n hhalf =>
      obtain ⟨hhigh, hlow⟩ := Bool.or_eq_false_iff.1 (Bool.eq_false_iff.2 hhalf)
      obtain ⟨c, rfl⟩ := exists_char hhigh hlow (hlt n List.mem_cons_self)
      rw [Char.ofNat_toNat] at h
      cases h
      exact .char c .nil
  | case4 n m rest hhigh hlow ih =>
      obtain ⟨tail, htail, rfl⟩ := Option.map_eq_some_iff.1 h
      have hrest := ih (fun k hk => hlt k (List.mem_cons_of_mem _ (List.mem_cons_of_mem _ hk))) htail
      refine .pair hhigh hlow (toNat_ofNat ?_) hrest
      simp only [isHighHalf, isLowHalf, Bool.and_eq_true, decide_eq_true_eq] at hhigh hlow
      rw [Nat.isValidChar]
      omega
  | case5 n m rest hhigh hlow =>
      cases h
  | case6 n m rest hhigh hlow =>
      cases h
  | case7 n m rest hhigh hlow ih =>
      obtain ⟨tail, htail, rfl⟩ := Option.map_eq_some_iff.1 h
      obtain ⟨c, rfl⟩ := exists_char (Bool.eq_false_iff.2 hhigh) (Bool.eq_false_iff.2 hlow)
        (hlt n List.mem_cons_self)
      rw [Char.ofNat_toNat]
      exact .char c (ih (fun k hk => hlt k (List.mem_cons_of_mem _ hk)) htail)

theorem hexValue?_lt {c : Char} {n : Nat} (h : hexValue? c = some n) : n < 16 := by
  have hle : ∀ {top : Char}, c ≤ top → c.toNat ≤ top.toNat := fun h => h
  simp only [hexValue?, Bool.and_eq_true, decide_eq_true_eq] at h
  split at h
  · rename_i hc
    have hnine : c.toNat ≤ 57 := hle hc.2
    cases h
    omega
  · split at h
    · rename_i hc
      have hf : c.toNat ≤ 102 := hle hc.2
      cases h
      omega
    · split at h
      · rename_i hc
        have hf : c.toNat ≤ 70 := hle hc.2
        cases h
        omega
      · cases h

theorem hexQuad?_lt {a b c d : Char} {n : Nat} (h : hexQuad? a b c d = some n) : n < 0x10000 := by
  simp only [hexQuad?, Option.bind_eq_bind, Option.bind_eq_some_iff, Option.pure_def,
    Option.some.injEq] at h
  obtain ⟨a, ha, b, hb, c, hc, d, hd, rfl⟩ := h
  have ha := hexValue?_lt ha
  have hb := hexValue?_lt hb
  have hc := hexValue?_lt hc
  have hd := hexValue?_lt hd
  omega

theorem SpellsCodes.lt (h : SpellsCodes codes chars) : ∀ n ∈ codes, n < 0x110000 := by
  have hchar : ∀ c : Char, c.toNat < 0x110000 := by
    intro c
    have hvalid : c.toNat < 0xd800 ∨ 0xdfff < c.toNat ∧ c.toNat < 0x110000 := c.valid
    omega
  induction h with
  | nil =>
      exact fun _ h => absurd h List.not_mem_nil
  | @plain _ _ c _ _ _ _ ih =>
      exact List.forall_mem_cons.2 ⟨hchar c, ih⟩
  | @sign _ _ _ c _ _ ih =>
      exact List.forall_mem_cons.2 ⟨hchar c, ih⟩
  | number hn _ ih =>
      have hlt := hexQuad?_lt hn
      exact List.forall_mem_cons.2 ⟨by omega, ih⟩

/-- The code points of a spelling have the text that the grammar gives them. -/
theorem SpellsCodes.textOf_eq (h : SpellsCodes codes chars) {text : Option String}
    (htext : ∀ s : String, text = some s ↔ Joins codes s.toList) : textOf codes = text := by
  apply Option.ext
  intro s
  rw [htext, textOf, Option.map_eq_some_iff]
  constructor
  · rintro ⟨list, hlist, rfl⟩
    rw [String.toList_ofList]
    exact joins_of_assemble h.lt hlist
  · exact fun hjoins => ⟨_, assemble_of_joins hjoins, String.ofList_toList⟩

/-- A character that needs no escape is read as it stands. -/
theorem readString_plain (found : List Nat) {c : Char} (rest : List Char) (hquote : c ≠ '"')
    (hescape : c ≠ '\\') (hprints : ¬ c.toNat < 0x20) :
    readString found (c :: rest) = readString (c.toNat :: found) rest := by
  rw [readString, if_neg hprints]
  · exact hquote
  · intro _ _ _ _ _ heq _
    exact hescape heq
  · intro _ _ heq _
    exact hescape heq

theorem readString_sign (found : List Nat) {e c : Char} (rest : List Char)
    (h : signEscape? e = some c) :
    readString found ('\\' :: e :: rest) = readString (c.toNat :: found) rest := by
  have he : e ≠ 'u' := by
    rintro rfl
    cases h
  rw [readString, h]
  exact fun _ _ _ _ _ heq _ => he heq

theorem SpellsCodes.readString (h : SpellsCodes codes chars) (found : List Nat)
    (rest : List Char) :
    readString found (chars ++ '"' :: rest) = some (found.reverse ++ codes, rest) := by
  induction h generalizing found with
  | nil =>
      rw [List.nil_append, Json.readString, List.append_nil]
  | plain hquote hescape hprints _ ih =>
      rw [List.cons_append, readString_plain found _ hquote hescape hprints, ih,
        List.reverse_cons, List.append_assoc, List.singleton_append]
  | sign hsign _ ih =>
      rw [List.cons_append, List.cons_append, readString_sign found _ hsign, ih,
        List.reverse_cons, List.append_assoc, List.singleton_append]
  | number hn _ ih =>
      simp only [List.cons_append, Json.readString, hn]
      rw [ih, List.reverse_cons, List.append_assoc, List.singleton_append]

theorem SpellsString.readString {name : Option String} (h : SpellsString name chars)
    (rest : List Char) :
    ∃ more codes, chars ++ rest = '"' :: more ∧ Json.readString [] more = some (codes, rest) ∧
      textOf codes = name := by
  obtain ⟨codes, inner, hcodes, htext, rfl⟩ := h
  refine ⟨inner ++ '"' :: rest, codes, ?_, hcodes.readString [] rest, hcodes.textOf_eq htext⟩
  rw [List.cons_append, List.append_assoc, List.singleton_append]

end Strings

/-! ## Numbers -/

/-- A value ends here: the text is over, or white space, a comma or a closing bracket comes next. -/
def EndsValue (rest : List Char) : Prop :=
  ∀ c ∈ rest.head?, isSpace c = true ∨ c = ',' ∨ c = ']' ∨ c = '}'

/-- Digits end here. -/
def EndsDigits (rest : List Char) : Prop :=
  ∀ c ∈ rest.head?, isDigit c = false

/-- Numbers start with a minus sign or a digit. -/
def startsNumber (c : Char) : Bool :=
  c == '-' || isDigit c

section Numbers

variable {chars fraction exponent rest : List Char}

theorem EndsValue.cases (h : EndsValue rest) :
    rest = [] ∨ ∃ c more, rest = c :: more ∧ c ∈ [' ', '\n', '\t', '\r', ',', ']', '}'] := by
  cases rest with
  | nil =>
      exact .inl rfl
  | cons c more =>
      refine .inr ⟨c, more, rfl, ?_⟩
      have hc := h c rfl
      simpa only [isSpace, Bool.or_eq_true, beq_iff_eq, or_assoc, List.mem_cons, List.not_mem_nil,
        or_false] using hc

theorem EndsValue.endsDigits (h : EndsValue rest) : EndsDigits rest := by
  rcases h.cases with rfl | ⟨c, more, rfl, hc⟩
  · exact fun _ hc => nomatch hc
  · intro d hd
    rw [← Option.mem_some_iff.1 hd]
    simp only [List.mem_cons, List.not_mem_nil, or_false] at hc
    rcases hc with rfl | rfl | rfl | rfl | rfl | rfl | rfl <;> rfl

theorem endsDigits_cons {c : Char} (h : isDigit c = false) : EndsDigits (c :: rest) := by
  intro d hd
  rw [← Option.mem_some_iff.1 hd, h]

theorem IsExponent.endsDigits (h : IsExponent exponent) (hrest : EndsDigits rest) :
    EndsDigits (exponent ++ rest) := by
  cases h with
  | none =>
      exact hrest
  | lower _ =>
      exact endsDigits_cons rfl
  | upper _ =>
      exact endsDigits_cons rfl

theorem IsFraction.endsDigits (h : IsFraction fraction) (hrest : EndsDigits rest) :
    EndsDigits (fraction ++ rest) := by
  cases h with
  | none =>
      exact hrest
  | digits _ =>
      exact endsDigits_cons rfl

theorem IsDigits.exists_cons (h : IsDigits chars) :
    ∃ c more, chars = c :: more ∧ isDigit c = true := by
  obtain ⟨c, more, rfl⟩ := List.exists_cons_of_ne_nil h.ne_nil
  exact ⟨c, more, rfl, h.digits c List.mem_cons_self⟩

theorem IsDigits.readDigits (h : IsDigits chars) (hrest : EndsDigits rest) :
    readDigits (chars ++ rest) = some (chars, rest) := by
  have hends : rest.takeWhile isDigit = [] ∧ rest.dropWhile isDigit = rest := by
    cases rest with
    | nil =>
        exact ⟨rfl, rfl⟩
    | cons c more =>
        have hc : ¬ isDigit c = true := Bool.eq_false_iff.1 (hrest c rfl)
        exact ⟨List.takeWhile_cons_of_neg hc, List.dropWhile_cons_of_neg hc⟩
  simp only [Json.readDigits, List.takeWhile_append_of_pos h.digits,
    List.dropWhile_append_of_pos h.digits, hends.1, hends.2, List.append_nil,
    List.isEmpty_eq_false_iff.2 h.ne_nil, Bool.false_eq_true, if_false]

theorem IsInteger.readInteger (h : IsInteger chars) (hrest : EndsDigits rest) :
    readInteger (chars ++ rest) = some (chars, rest) := by
  cases h with
  | zero =>
      rfl
  | digits hdigits hzero =>
      rw [readInteger.eq_2, hdigits.readDigits hrest]
      intro more hmore
      obtain ⟨c, tail, rfl, _⟩ := hdigits.exists_cons
      exact hzero (congrArg some (List.cons.inj hmore).1)

theorem IsFraction.readFraction (h : IsFraction fraction) (hrest : EndsDigits rest)
    (hpoint : rest.head? ≠ some '.') :
    readFraction (fraction ++ rest) = some (fraction, rest) := by
  cases h with
  | none =>
      refine readFraction.eq_2 _ fun more hmore => ?_
      rw [List.nil_append] at hmore
      rw [hmore] at hpoint
      exact hpoint rfl
  | digits hdigits =>
      rw [List.cons_append, Json.readFraction, hdigits.readDigits hrest]
      rfl

theorem IsSigned.readSigned (h : IsSigned chars) (hrest : EndsDigits rest) :
    readSigned (chars ++ rest) = some (chars, rest) := by
  cases h with
  | plain hdigits =>
      have hread := hdigits.readDigits hrest
      obtain ⟨c, more, rfl, hc⟩ := hdigits.exists_cons
      have hsign : c ≠ '+' ∧ c ≠ '-' := by
        constructor <;> (rintro rfl; cases hc)
      rw [readSigned.eq_3, hread]
      · exact fun _ hmore => hsign.1 (List.cons.inj hmore).1
      · exact fun _ hmore => hsign.2 (List.cons.inj hmore).1
  | plus hdigits =>
      rw [List.cons_append, Json.readSigned, hdigits.readDigits hrest]
      rfl
  | minus hdigits =>
      rw [List.cons_append, Json.readSigned, hdigits.readDigits hrest]
      rfl

theorem IsExponent.readExponent (h : IsExponent exponent) (hrest : EndsValue rest) :
    readExponent (exponent ++ rest) = some (exponent, rest) := by
  cases h with
  | none =>
      rcases hrest.cases with rfl | ⟨c, more, rfl, hc⟩
      · rfl
      · simp only [List.mem_cons, List.not_mem_nil, or_false] at hc
        rcases hc with rfl | rfl | rfl | rfl | rfl | rfl | rfl <;> rfl
  | lower hsigned =>
      rw [List.cons_append, Json.readExponent, hsigned.readSigned hrest.endsDigits]
      rfl
  | upper hsigned =>
      rw [List.cons_append, Json.readExponent, hsigned.readSigned hrest.endsDigits]
      rfl

theorem IsExponent.ne_point (h : IsExponent exponent) (hrest : EndsValue rest) :
    (exponent ++ rest).head? ≠ some '.' := by
  cases h with
  | none =>
      intro hpoint
      have hc := hrest '.' hpoint
      revert hc
      decide
  | lower _ =>
      exact fun h => nomatch h
  | upper _ =>
      exact fun h => nomatch h

theorem IsMagnitude.readMagnitude (h : IsMagnitude chars) (hrest : EndsValue rest) :
    readMagnitude (chars ++ rest) = some (chars, rest) := by
  cases h with
  | parts hwhole hfraction hexponent =>
      have hdigits := hexponent.endsDigits hrest.endsDigits
      simp only [Json.readMagnitude, List.append_assoc,
        hwhole.readInteger (hfraction.endsDigits hdigits),
        hfraction.readFraction hdigits (hexponent.ne_point hrest), hexponent.readExponent hrest,
        Option.bind_eq_bind, Option.bind_some, Option.pure_def]

theorem IsMagnitude.exists_cons (h : IsMagnitude chars) :
    ∃ c more, chars = c :: more ∧ isDigit c = true := by
  cases h with
  | parts hwhole _ _ =>
      cases hwhole with
      | zero =>
          exact ⟨'0', _, rfl, rfl⟩
      | digits hdigits _ =>
          obtain ⟨c, more, rfl, hc⟩ := hdigits.exists_cons
          exact ⟨c, _, rfl, hc⟩

theorem IsNumber.readNumber (h : IsNumber chars) (hrest : EndsValue rest) :
    readNumber (chars ++ rest) = some (chars, rest) := by
  cases h with
  | plain hmagnitude =>
      rw [readNumber.eq_2, hmagnitude.readMagnitude hrest]
      intro more hmore
      obtain ⟨c, tail, rfl, hc⟩ := hmagnitude.exists_cons
      rw [(List.cons.inj hmore).1] at hc
      cases hc
  | minus hmagnitude =>
      rw [List.cons_append, Json.readNumber, hmagnitude.readMagnitude hrest]
      rfl

theorem IsNumber.exists_cons (h : IsNumber chars) :
    ∃ c more, chars = c :: more ∧ startsNumber c = true := by
  cases h with
  | plain hmagnitude =>
      obtain ⟨c, more, rfl, hc⟩ := hmagnitude.exists_cons
      exact ⟨c, more, rfl, Bool.or_eq_true_iff.2 (.inr hc)⟩
  | minus _ =>
      exact ⟨'-', _, rfl, rfl⟩

end Numbers

/-! ## Values -/

/-! ### White space -/

section Spaces

variable {chars gap rest : List Char}

theorem skipSpace_cons_of_not {c : Char} (h : isSpace c = false) :
    skipSpace (c :: chars) = c :: chars := by
  rw [skipSpace, List.dropWhile_cons_of_neg (by rw [h]; decide)]

theorem skipSpace_gap (h : Gap gap) (chars : List Char) :
    skipSpace (gap ++ chars) = skipSpace chars :=
  List.dropWhile_append_of_pos h

/-- Only what stands behind spaces counts for a value. -/
theorem readValue_congr {other : List Char} (h : skipSpace chars = skipSpace other) (fuel : Nat) :
    readValue fuel chars = readValue fuel other := by
  cases fuel with
  | zero =>
      rfl
  | succ fuel =>
      rw [readValue, readValue, h]

theorem readItems_congr {other : List Char} (h : skipSpace chars = skipSpace other) (fuel : Nat)
    (found : List Json) : readItems fuel found chars = readItems fuel found other := by
  cases fuel with
  | zero =>
      rfl
  | succ fuel =>
      rw [readItems, readItems, readValue_congr h]

theorem readMembers_congr {other : List Char} (h : skipSpace chars = skipSpace other) (fuel : Nat)
    (found : List (Option String × Json)) :
    readMembers fuel found chars = readMembers fuel found other := by
  cases fuel with
  | zero =>
      rfl
  | succ fuel =>
      rw [readMembers, readMembers, h]

theorem endsValue_cons {c : Char} (h : c = ',' ∨ c = ']' ∨ c = '}') : EndsValue (c :: rest) := by
  intro d hd
  rw [← Option.mem_some_iff.1 hd]
  exact .inr h

theorem EndsValue.gap_append (hgap : Gap gap) (h : EndsValue rest) : EndsValue (gap ++ rest) := by
  cases gap with
  | nil =>
      exact h
  | cons c gap =>
      intro d hd
      rw [← Option.mem_some_iff.1 hd]
      exact .inl (hgap c List.mem_cons_self)

end Spaces

/-! ### Where values start -/

/-- The first characters of values. -/
def startsValue (c : Char) : Bool :=
  startsNumber c || ['n', 't', 'f', '"', '[', '{'].contains c

theorem isSpace_of_startsValue {c : Char} (h : startsValue c = true) : isSpace c = false := by
  refine Bool.eq_false_iff.2 fun hspace => ?_
  simp only [isSpace, Bool.or_eq_true, beq_iff_eq] at hspace
  rcases hspace with ((rfl | rfl) | rfl) | rfl <;> exact absurd h (by decide)

theorem SpellsName.exists_cons {name : Option String} {chars : List Char}
    (h : SpellsName name chars) (rest : List Char) :
    ∃ more codes gap, skipSpace (chars ++ rest) = '"' :: more ∧ Gap gap ∧
      readString [] more = some (codes, gap ++ rest) ∧ textOf codes = name := by
  obtain ⟨before, inner, behind, hbefore, hinner, hbehind, rfl⟩ := h
  obtain ⟨more, codes, hchars, hread, hname⟩ := hinner.readString (behind ++ rest)
  refine ⟨more, codes, behind, ?_, hbehind, hread, hname⟩
  rw [List.append_assoc, skipSpace_gap hbefore, List.append_assoc, hchars]
  exact skipSpace_cons_of_not rfl

theorem Spells.exists_cons {j : Json} {chars : List Char} (h : Spells j chars) (rest : List Char) :
    ∃ c more, skipSpace (chars ++ rest) = c :: more ∧ startsValue c = true := by
  have hstart : ∀ {c : Char} {more : List Char}, startsValue c = true →
      ∃ d tail, skipSpace (c :: more) = d :: tail ∧ startsValue d = true :=
    fun hc => ⟨_, _, skipSpace_cons_of_not (isSpace_of_startsValue hc), hc⟩
  induction h generalizing rest with
  | number hnumber =>
      obtain ⟨c, more, rfl, hc⟩ := hnumber.exists_cons
      exact hstart (Bool.or_eq_true_iff.2 (.inl hc))
  | string hstring =>
      obtain ⟨_, _, _, _, rfl⟩ := hstring
      exact hstart rfl
  | spaced hbefore _ _ ih =>
      rw [List.append_assoc, skipSpace_gap hbefore, List.append_assoc]
      exact ih _
  | _ =>
      exact hstart rfl

/-! ### Reading values -/

/-- The document is read off the characters, with enough fuel, up to what ends it. -/
def Reads (j : Json) (chars : List Char) : Prop :=
  ∀ (fuel : Nat) (rest : List Char), EndsValue rest → chars.length < fuel →
    ∃ gap, Gap gap ∧ readValue fuel (chars ++ rest) = some (j, gap ++ rest)

theorem commas_cons (part : List Char) (parts : List (List Char)) :
    commas (part :: parts) = part ++ parts.flatMap (',' :: ·) := by
  induction parts generalizing part with
  | nil =>
      rw [commas, List.flatMap_nil, List.append_nil]
  | cons next parts ih =>
      rw [commas, ih, List.flatMap_cons, List.cons_append]

theorem MemberText.chars_append (m : MemberText) (rest : List Char) :
    m.chars ++ rest = m.nameChars ++ ':' :: (m.valueChars ++ rest) := by
  rw [chars, List.append_assoc, List.cons_append]

section Reading

variable {fuel : Nat} {chars gap rest : List Char}

theorem readValue_number {c : Char} (h : startsNumber c = true) :
    readValue (fuel + 1) (c :: chars) =
      (readNumber (c :: chars)).map fun (literal, rest) => (.number literal, rest) := by
  rw [readValue, skipSpace_cons_of_not (isSpace_of_startsValue (Bool.or_eq_true_iff.2 (.inl h)))]
  split
  case h_7 =>
    rfl
  all_goals
    rename_i heq
    rw [(List.cons.inj heq).1] at h
    exact absurd h (by decide)

/-- What stands behind the bracket is an item and not the end. -/
theorem readValue_items {c : Char} {more : List Char} (h : skipSpace chars = c :: more)
    (hc : startsValue c = true) : readValue (fuel + 1) ('[' :: chars) = readItems fuel [] chars := by
  have hskip : skipSpace (c :: more) = skipSpace chars := by
    rw [h, skipSpace_cons_of_not (isSpace_of_startsValue hc)]
  rw [← readItems_congr hskip, readValue, skipSpace_cons_of_not rfl]
  simp only [h]
  split
  · rename_i hclosed
    rw [(List.cons.inj hclosed).1] at hc
    exact absurd hc (by decide)
  · rfl

theorem readValue_members {more : List Char} (h : skipSpace chars = '"' :: more) :
    readValue (fuel + 1) ('{' :: chars) = readMembers fuel [] chars := by
  have hskip : skipSpace ('"' :: more) = skipSpace chars := by
    rw [h, skipSpace_cons_of_not rfl]
  rw [← readMembers_congr hskip, readValue, skipSpace_cons_of_not rfl]
  simp only [h]
  rfl

/-- What is read behind the items found so far: more of them, or the end. -/
def itemsBehind (fuel : Nat) (found : List Json) : List Char → Option (Json × List Char)
  | ',' :: rest => readItems fuel found rest
  | ']' :: rest => some (.array found.reverse, rest)
  | _ => none

/-- Reading an item comes down to reading its value. -/
theorem readItems_item {part : Json × List Char} (h : Reads part.1 part.2) (found : List Json)
    (hrest : EndsValue rest) (hfuel : part.2.length < fuel) :
    readItems (fuel + 1) found (part.2 ++ rest) =
      itemsBehind fuel (part.1 :: found) (skipSpace rest) := by
  obtain ⟨gap, hgap, hread⟩ := h fuel rest hrest hfuel
  rw [readItems, hread]
  simp only [skipSpace_gap hgap]
  rfl

theorem readItems_commas {first : Json × List Char} {parts : List (Json × List Char)}
    (hall : ∀ part ∈ first :: parts, Reads part.1 part.2) (hgap : Gap gap) (found : List Json)
    (hfuel : (commas ((first :: parts).map (·.2))).length + 1 < fuel) :
    readItems fuel found (commas ((first :: parts).map (·.2)) ++ (gap ++ ']' :: rest)) =
      some (.array (found.reverse ++ (first :: parts).map (·.1)), rest) := by
  induction parts generalizing first found fuel with
  | nil =>
      obtain ⟨fuel, rfl⟩ := Nat.exists_eq_succ_of_ne_zero (Nat.ne_zero_of_lt hfuel)
      simp only [List.map_cons, List.map_nil, commas] at hfuel ⊢
      rw [readItems_item (hall first List.mem_cons_self) found
        ((endsValue_cons (by decide)).gap_append hgap) (by omega), skipSpace_gap hgap,
        skipSpace_cons_of_not rfl, itemsBehind, List.reverse_cons]
  | cons next parts ih =>
      obtain ⟨fuel, rfl⟩ := Nat.exists_eq_succ_of_ne_zero (Nat.ne_zero_of_lt hfuel)
      simp only [List.map_cons, commas, List.length_append, List.length_cons] at hfuel
      have hshorter : (commas ((next :: parts).map (·.2))).length + 1 < fuel := by
        rw [List.map_cons]
        omega
      have hnext := ih (fun part hpart => hall part (List.mem_cons_of_mem _ hpart))
        (first.1 :: found) hshorter
      simp only [List.map_cons, commas, List.append_assoc, List.cons_append] at hnext ⊢
      rw [readItems_item (hall first List.mem_cons_self) found (endsValue_cons (by decide))
        (by omega), skipSpace_cons_of_not rfl, itemsBehind, hnext, List.reverse_cons,
        List.append_assoc]
      rfl

/-- What is read behind the members found so far: more of them, or the end. -/
def membersBehind (fuel : Nat) (found : List (Option String × Json)) :
    List Char → Option (Json × List Char)
  | ',' :: rest => readMembers fuel found rest
  | '}' :: rest => some (.object found.reverse, rest)
  | _ => none

/-- Reading a member comes down to reading its name and its value. -/
theorem readMembers_member {m : MemberText} (hname : SpellsName m.name m.nameChars)
    (hvalue : Reads m.value m.valueChars) (found : List (Option String × Json))
    (hrest : EndsValue rest) (hfuel : m.valueChars.length < fuel) :
    readMembers (fuel + 1) found (m.chars ++ rest) =
      membersBehind fuel (m.member :: found) (skipSpace rest) := by
  obtain ⟨more, codes, gap, hskip, hgap, hstring, htext⟩ :=
    hname.exists_cons (':' :: (m.valueChars ++ rest))
  obtain ⟨behind, hbehind, hread⟩ := hvalue fuel rest hrest hfuel
  rw [readMembers, m.chars_append, hskip]
  simp only [hstring, skipSpace_gap hgap, skipSpace_cons_of_not (show isSpace ':' = false from rfl),
    hread, skipSpace_gap hbehind, htext]
  rfl

theorem readMembers_commas {first : MemberText} {parts : List MemberText}
    (hnames : ∀ m ∈ first :: parts, SpellsName m.name m.nameChars)
    (hvalues : ∀ m ∈ first :: parts, Reads m.value m.valueChars)
    (hgap : Gap gap) (found : List (Option String × Json))
    (hfuel : (commas ((first :: parts).map MemberText.chars)).length + 1 < fuel) :
    readMembers fuel found
        (commas ((first :: parts).map MemberText.chars) ++ (gap ++ '}' :: rest)) =
      some (.object (found.reverse ++ (first :: parts).map MemberText.member), rest) := by
  have hlength : ∀ m : MemberText, m.valueChars.length < m.chars.length := by
    intro m
    simp only [MemberText.chars, List.length_append, List.length_cons]
    omega
  induction parts generalizing first found fuel with
  | nil =>
      obtain ⟨fuel, rfl⟩ := Nat.exists_eq_succ_of_ne_zero (Nat.ne_zero_of_lt hfuel)
      simp only [List.map_cons, List.map_nil, commas] at hfuel ⊢
      have hvalue := hlength first
      rw [readMembers_member (hnames first List.mem_cons_self) (hvalues first List.mem_cons_self)
        found ((endsValue_cons (by decide)).gap_append hgap) (by omega), skipSpace_gap hgap,
        skipSpace_cons_of_not rfl, membersBehind, List.reverse_cons]
  | cons next parts ih =>
      obtain ⟨fuel, rfl⟩ := Nat.exists_eq_succ_of_ne_zero (Nat.ne_zero_of_lt hfuel)
      have hvalue := hlength first
      simp only [List.map_cons, commas, List.length_append, List.length_cons] at hfuel
      have hshorter : (commas ((next :: parts).map MemberText.chars)).length + 1 < fuel := by
        rw [List.map_cons]
        omega
      have hnext := ih (fun m hm => hnames m (List.mem_cons_of_mem _ hm))
        (fun m hm => hvalues m (List.mem_cons_of_mem _ hm)) (first.member :: found) hshorter
      simp only [List.map_cons, commas, List.append_assoc, List.cons_append] at hnext ⊢
      rw [readMembers_member (hnames first List.mem_cons_self) (hvalues first List.mem_cons_self)
        found (endsValue_cons (by decide)) (by omega), skipSpace_cons_of_not rfl, membersBehind,
        hnext, List.reverse_cons, List.append_assoc]
      rfl

/-- Nothing is left between most values and what ends them. -/
theorem gap_nil : Gap [] :=
  fun _ h => absurd h List.not_mem_nil

theorem reads_array {parts : List (Json × List Char)} (hspells : ∀ part ∈ parts, Spells part.1 part.2)
    (hreads : ∀ part ∈ parts, Reads part.1 part.2) (hgap : Gap gap) :
    Reads (.array (parts.map (·.1))) ('[' :: (commas (parts.map (·.2)) ++ (gap ++ [']']))) := by
  intro fuel rest _ hfuel
  obtain ⟨fuel, rfl⟩ := Nat.exists_eq_succ_of_ne_zero (Nat.ne_zero_of_lt hfuel)
  simp only [List.length_cons, List.length_append, List.length_nil] at hfuel
  simp only [List.cons_append, List.append_assoc, List.nil_append]
  refine ⟨[], gap_nil, ?_⟩
  cases parts with
  | nil =>
      have hend : skipSpace (gap ++ ']' :: rest) = ']' :: rest := skipSpace_gap hgap _
      rw [readValue, skipSpace_cons_of_not rfl]
      simp only [List.map_nil, commas, List.nil_append, hend]
  | cons first parts =>
      obtain ⟨c, more, hskip, hc⟩ := (hspells first List.mem_cons_self).exists_cons
        ((parts.map (·.2)).flatMap (',' :: ·) ++ (gap ++ ']' :: rest))
      rw [← List.append_assoc, ← commas_cons] at hskip
      rw [List.map_cons, readValue_items hskip hc]
      exact readItems_commas hreads hgap [] (by omega)

theorem reads_object {parts : List MemberText} (hnames : ∀ m ∈ parts, SpellsName m.name m.nameChars)
    (hreads : ∀ m ∈ parts, Reads m.value m.valueChars) (hgap : Gap gap) :
    Reads (.object (parts.map MemberText.member))
      ('{' :: (commas (parts.map MemberText.chars) ++ (gap ++ ['}']))) := by
  intro fuel rest _ hfuel
  obtain ⟨fuel, rfl⟩ := Nat.exists_eq_succ_of_ne_zero (Nat.ne_zero_of_lt hfuel)
  simp only [List.length_cons, List.length_append, List.length_nil] at hfuel
  simp only [List.cons_append, List.append_assoc, List.nil_append]
  refine ⟨[], gap_nil, ?_⟩
  cases parts with
  | nil =>
      have hend : skipSpace (gap ++ '}' :: rest) = '}' :: rest := skipSpace_gap hgap _
      rw [readValue, skipSpace_cons_of_not rfl]
      simp only [List.map_nil, commas, List.nil_append, hend]
  | cons first parts =>
      obtain ⟨more, _, _, hskip, _⟩ := (hnames first List.mem_cons_self).exists_cons
        (':' :: (first.valueChars ++
          ((parts.map MemberText.chars).flatMap (',' :: ·) ++ (gap ++ '}' :: rest))))
      rw [← first.chars_append, ← List.append_assoc, ← commas_cons] at hskip
      rw [List.map_cons, readValue_members hskip]
      exact readMembers_commas hnames hreads hgap [] (by omega)

end Reading

/-- Every spelling of a document is read as this document. -/
theorem Spells.reads {j : Json} {chars : List Char} (h : Spells j chars) : Reads j chars := by
  induction h with
  | spaced hbefore hbehind _ ih =>
      intro fuel rest hrest hfuel
      simp only [List.length_append] at hfuel
      obtain ⟨gap, hgap, hread⟩ := ih fuel _ (hrest.gap_append hbehind) (by omega)
      refine ⟨gap ++ _, List.forall_mem_append.2 ⟨hgap, hbehind⟩, ?_⟩
      rw [List.append_assoc, readValue_congr (skipSpace_gap hbefore _), List.append_assoc, hread,
        List.append_assoc]
  | number hnumber =>
      intro fuel rest hrest hfuel
      obtain ⟨fuel, rfl⟩ := Nat.exists_eq_succ_of_ne_zero (Nat.ne_zero_of_lt hfuel)
      have hread := hnumber.readNumber hrest
      obtain ⟨c, more, rfl, hc⟩ := hnumber.exists_cons
      rw [List.cons_append] at hread ⊢
      rw [readValue_number hc, hread]
      exact ⟨[], gap_nil, rfl⟩
  | string hstring =>
      intro fuel rest _ hfuel
      obtain ⟨fuel, rfl⟩ := Nat.exists_eq_succ_of_ne_zero (Nat.ne_zero_of_lt hfuel)
      obtain ⟨more, codes, hchars, hread, rfl⟩ := hstring.readString rest
      rw [hchars, readValue, skipSpace_cons_of_not rfl]
      simp only [hread]
      exact ⟨[], gap_nil, rfl⟩
  | array hall hgap ih =>
      exact reads_array hall ih hgap
  | object hnames _ hgap ih =>
      exact reads_object hnames ih hgap
  | _ =>
      -- Null and the truth values are words.
      intro fuel rest _ hfuel
      obtain ⟨fuel, rfl⟩ := Nat.exists_eq_succ_of_ne_zero (Nat.ne_zero_of_lt hfuel)
      exact ⟨[], gap_nil, rfl⟩

/-- A whole text that spells a document is read as this document. -/
theorem parse?_of_spells {j : Json} {text : String} (h : Spells j text.toList) :
    parse? text = some j := by
  obtain ⟨gap, hgap, hread⟩ := h.reads (text.length + 1) [] (fun _ h => nomatch h)
    (Nat.lt_succ_self _)
  rw [List.append_nil, List.append_nil] at hread
  have hend : skipSpace gap = [] := by
    rw [← List.append_nil gap, skipSpace_gap hgap]
    rfl
  rw [parse?, hread]
  simp only [hend]
  rfl

end Json
end TileRules
