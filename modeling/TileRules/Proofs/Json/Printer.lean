import TileRules.Json.Printer
import TileRules.Proofs.Json.Reader

/-!
# Json printer — a printed document is read back

The library writes documents of null, truth values, integers, texts, arrays and objects. The printed
text of such a document is one of the texts that the grammar gives it, so reading it gives the
document back.

- `spellsString_literal`: the characters between the quotes spell the text before escaping;
- `isNumber_intLiteral`: an integer is written as a number;
- `Written` are the documents that the library writes, and `spells_print` spells one;
- `parse?_pretty`: a whole text is read back.
-/

namespace TileRules
namespace Json

/-! ## Strings -/

theorem hexValue?_hexDigit {n : Nat} (h : n < 16) : hexValue? (hexDigit n) = some n := by
  revert n
  decide

/-- The escape of a control character names its number. -/
theorem hexQuad?_control {n : Nat} (h : n < 0x20) :
    hexQuad? '0' '0' (hexDigit (n / 16)) (hexDigit (n % 16)) = some n := by
  have hhigh := hexValue?_hexDigit (n := n / 16) (by omega)
  have hlow := hexValue?_hexDigit (n := n % 16) (by omega)
  have hzero : hexValue? '0' = some 0 := by decide
  simp only [hexQuad?, hzero, hhigh, hlow, Option.bind_eq_bind, Option.bind_some, Option.pure_def,
    Option.some.injEq]
  omega

theorem spellsCodes_escaped (c : Char) {codes : List Nat} {chars : List Char}
    (h : SpellsCodes codes chars) : SpellsCodes (c.toNat :: codes) (escaped c ++ chars) := by
  -- Seven characters are escaped by a sign, the other controls by their number.
  by_cases hsign : c = '"' ∨ c = '\\' ∨ c = '\n' ∨ c = '\t' ∨ c = '\r' ∨ c = '\x08' ∨ c = '\x0c'
  · rcases hsign with rfl | rfl | rfl | rfl | rfl | rfl | rfl <;> exact .sign rfl h
  · simp only [not_or] at hsign
    obtain ⟨hquote, hescape, hn, ht, hr, hb, hf⟩ := hsign
    rw [escaped, if_neg hquote, if_neg hescape, if_neg hn, if_neg ht, if_neg hr, if_neg hb,
      if_neg hf]
    by_cases hcontrol : c.toNat < 0x20
    · rw [if_pos hcontrol]
      exact .number (hexQuad?_control hcontrol) h
    · rw [if_neg hcontrol]
      exact .plain hquote hescape hcontrol h

theorem spellsCodes_literal (text : List Char) :
    SpellsCodes (text.map Char.toNat) (text.flatMap escaped) := by
  induction text with
  | nil =>
      exact .nil
  | cons c text ih =>
      rw [List.flatMap_cons]
      exact spellsCodes_escaped c ih

theorem joins_toNat (text : List Char) : Joins (text.map Char.toNat) text := by
  induction text with
  | nil =>
      exact .nil
  | cons c text ih =>
      exact .char c ih

theorem spellsString_literal (text : String) :
    SpellsString (some text) (stringLiteral text.toList) := by
  have hjoins := joins_toNat text.toList
  refine ⟨_, _, spellsCodes_literal text.toList, fun s => ?_, rfl⟩
  constructor
  · rintro h
    rwa [← Option.some.inj h]
  · intro h
    have hsame := (assemble_of_joins hjoins).symm.trans (assemble_of_joins h)
    exact congrArg some (String.toList_injective (Option.some.inj hsame))

/-! ## Numbers -/

theorem isDigit_of_mem_toDigits {n : Nat} {c : Char} (h : c ∈ Nat.toDigits 10 n) :
    isDigit c = true := by
  have hdigit := Nat.isDigit_of_mem_toDigits (by decide) (by decide) h
  rw [Char.isDigit, Bool.and_eq_true, decide_eq_true_eq, decide_eq_true_eq] at hdigit
  rw [isDigit, Bool.and_eq_true, decide_eq_true_eq, decide_eq_true_eq]
  exact hdigit

theorem isDigits_toDigits (n : Nat) : IsDigits (Nat.toDigits 10 n) where
  ne_nil := Nat.toDigits_ne_nil
  digits _ := isDigit_of_mem_toDigits

/-- Only zero is written with a zero at the front. -/
theorem eq_zero_of_toDigits {n : Nat} {digits : List Char} (h : Nat.toDigits 10 n = '0' :: digits) :
    n = 0 := by
  induction n using Nat.strongRecOn generalizing digits with
  | ind n ih =>
      rcases Nat.lt_or_ge n 10 with hlt | hge
      · rw [Nat.toDigits_of_lt_base hlt] at h
        have hchar : ∀ m < 10, m.digitChar = '0' → m = 0 := by decide
        exact hchar n hlt (List.cons.inj h).1
      · rw [Nat.toDigits_of_base_le (by decide) hge] at h
        obtain ⟨c, more, hmore, _⟩ := (isDigits_toDigits (n / 10)).exists_cons
        rw [hmore, List.cons_append] at h
        have hzero := ih (n / 10) (by omega) (hmore.trans (by rw [(List.cons.inj h).1]))
        omega

theorem isInteger_toDigits (n : Nat) : IsInteger (Nat.toDigits 10 n) := by
  by_cases hzero : n = 0
  · subst hzero
    exact .zero
  · refine .digits (isDigits_toDigits n) fun hfirst => ?_
    obtain ⟨c, more, hmore, _⟩ := (isDigits_toDigits n).exists_cons
    rw [hmore, List.head?_cons, Option.some.injEq] at hfirst
    rw [hfirst] at hmore
    exact hzero (eq_zero_of_toDigits hmore)

theorem isMagnitude_toDigits (n : Nat) : IsMagnitude (Nat.toDigits 10 n) := by
  have hparts := IsMagnitude.parts (isInteger_toDigits n) .none .none
  rwa [List.append_nil, List.append_nil] at hparts

/-- The literal of an integer. -/
def intLiteral (i : Int) : List Char :=
  if i < 0 then '-' :: Nat.toDigits 10 i.natAbs else Nat.toDigits 10 i.natAbs

theorem int_eq (i : Int) : int i = .number (intLiteral i) := by
  rw [int, intLiteral]
  split <;> rfl

theorem isNumber_intLiteral (i : Int) : IsNumber (intLiteral i) := by
  rw [intLiteral]
  split
  · exact .minus (isMagnitude_toDigits _)
  · exact .plain (isMagnitude_toDigits _)

/-! ## Values -/

/-- The documents that the library writes: numbers are integers, and every string is a text. -/
inductive Written : Json → Prop
  | null : Written .null
  | bool (value : Bool) : Written (.bool value)
  | int (i : Int) : Written (.int i)
  | text (s : String) : Written (.text s)
  | array {items : List Json} : (∀ item ∈ items, Written item) → Written (.array items)
  | object {fields : List (String × Json)} :
      (∀ field ∈ fields, Written field.2) → Written (.ofFields fields)

theorem written_nat (n : Nat) : Written (.nat n) :=
  Written.int n

section Parts

variable (level : Nat)

theorem gap_blank : Gap [' '] := by
  intro c hc
  rw [List.mem_singleton.1 hc]
  rfl

theorem gap_newline : Gap (newline level) := by
  intro c hc
  rcases List.mem_cons.1 hc with rfl | hblank
  · rfl
  · rw [List.eq_of_mem_replicate hblank]
    rfl

/-- An item as it is printed, behind its line end. -/
def itemPart (item : Json) : Json × List Char :=
  (item, newline level ++ print level item)

theorem map_itemPart (items : List Json) : (items.map (itemPart level)).map (·.1) = items := by
  rw [List.map_map]
  exact List.map_id items

theorem commas_items (first : Json) (items : List Json) :
    commas (((first :: items).map (itemPart level)).map (·.2)) =
      newline level ++ print level first ++ printItems level items := by
  have hbehind : printItems level items =
      ((items.map (itemPart level)).map (·.2)).flatMap (',' :: ·) := by
    induction items with
    | nil =>
        rfl
    | cons item items ih =>
        simp only [printItems, ih, List.map_cons, List.flatMap_cons, itemPart, List.cons_append]
  rw [List.map_cons, List.map_cons, commas_cons, hbehind, itemPart]

/-- A member as it is printed, behind its line end. -/
def memberPart (field : String × Json) : MemberText where
  name := some field.1
  nameChars := newline level ++ stringLiteral field.1.toList
  value := field.2
  valueChars := ' ' :: print level field.2

theorem map_memberPart (fields : List (String × Json)) :
    (fields.map (memberPart level)).map MemberText.member =
      fields.map fun (name, value) => (some name, value) := by
  rw [List.map_map]
  rfl

theorem chars_memberPart (field : String × Json) :
    (memberPart level field).chars = newline level ++ printMember level (some field.1, field.2) := by
  rw [MemberText.chars, memberPart, printMember, Option.getD_some, List.append_assoc]

theorem commas_members (first : String × Json) (fields : List (String × Json)) :
    commas (((first :: fields).map (memberPart level)).map MemberText.chars) =
      newline level ++ printMember level (some first.1, first.2) ++
        printMembers level (fields.map fun (name, value) => (some name, value)) := by
  have hbehind : printMembers level (fields.map fun (name, value) => (some name, value)) =
      ((fields.map (memberPart level)).map MemberText.chars).flatMap (',' :: ·) := by
    induction fields with
    | nil =>
        rfl
    | cons field fields ih =>
        simp only [List.map_cons, printMembers, ih, List.flatMap_cons, chars_memberPart,
          List.cons_append]
  rw [List.map_cons, List.map_cons, commas_cons, hbehind, chars_memberPart]

end Parts

/-- A value stands behind white space, too. -/
theorem Spells.behind {j : Json} {gap chars : List Char} (hgap : Gap gap) (h : Spells j chars) :
    Spells j (gap ++ chars) := by
  have hspaced := Spells.spaced hgap gap_nil h
  rwa [List.append_nil] at hspaced

/-- Every document that the library writes is spelled by what is printed. -/
theorem spells_print {j : Json} (h : Written j) (level : Nat) : Spells j (print level j) := by
  induction h generalizing level with
  | null =>
      exact .null
  | bool value =>
      cases value
      · exact .no
      · exact .yes
  | int i =>
      rw [int_eq, print]
      exact .number (isNumber_intLiteral i)
  | text s =>
      exact .string (spellsString_literal s)
  | @array items _ ih =>
      have hparts : ∀ part ∈ items.map (itemPart (level + 1)), Spells part.1 part.2 := by
        intro part hpart
        obtain ⟨item, hitem, rfl⟩ := List.mem_map.1 hpart
        exact (ih item hitem (level + 1)).behind (gap_newline _)
      cases items with
      | nil =>
          exact .array hparts gap_nil
      | cons first items =>
          have hspells := Spells.array hparts (gap_newline level)
          rw [map_itemPart, commas_items] at hspells
          simpa only [print, List.append_assoc, List.cons_append] using hspells
  | @object fields _ ih =>
      have hnames : ∀ m ∈ fields.map (memberPart (level + 1)), SpellsName m.name m.nameChars := by
        intro m hm
        obtain ⟨field, _, rfl⟩ := List.mem_map.1 hm
        exact ⟨_, _, [], gap_newline _, spellsString_literal field.1, gap_nil,
          by rw [List.append_nil]; rfl⟩
      have hvalues : ∀ m ∈ fields.map (memberPart (level + 1)), Spells m.value m.valueChars := by
        intro m hm
        obtain ⟨field, hfield, rfl⟩ := List.mem_map.1 hm
        exact (ih field hfield (level + 1)).behind gap_blank
      cases fields with
      | nil =>
          exact .object hnames hvalues gap_nil
      | cons first fields =>
          have hspells := Spells.object hnames hvalues (gap_newline level)
          rw [map_memberPart, commas_members] at hspells
          simpa only [ofFields, List.map_cons, print, List.append_assoc, List.cons_append]
            using hspells

theorem spells_pretty {j : Json} (h : Written j) : Spells j j.pretty.toList := by
  rw [pretty, String.toList_ofList]
  exact spells_print h 0

/-- A whole text is read back. -/
theorem parse?_pretty {j : Json} (h : Written j) : parse? j.pretty = some j :=
  parse?_of_spells (spells_pretty h)

end Json
end TileRules
