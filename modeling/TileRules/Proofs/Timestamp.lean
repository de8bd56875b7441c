import Mathlib.Algebra.Group.Nat.Defs
import TileRules.Timestamp.Text

/-!
# Timestamp — a written instant is read back

Every number in the text of an instant is a run of digits that a sign or a letter ends, so reading
takes exactly the digits that were written, and the numbers name the same date and time again.

- `readDigits_padded` reads one number, and `readPair_padded`, `readYear_yearText` and
  `readFraction_fractionText` the parts of the text;
- `ofText?_text` reads the whole text.
-/

namespace TileRules
namespace Timestamp

/-! ## Digits -/

section Digits

variable {chars rest : List Char} {c : Char} {width most n : Nat}

/-- No digit comes next. -/
def EndsDigits : List Char → Prop
  | [] => True
  | c :: _ => isDigit c = false

theorem isDigit_iff : isDigit c = true ↔ 48 ≤ c.toNat ∧ c.toNat ≤ 57 := by
  rw [isDigit, Bool.and_eq_true, decide_eq_true_eq, decide_eq_true_eq]
  exact Iff.rfl

theorem isBlank_of_isDigit (h : isDigit c = true) : Text.isBlank c = false := by
  have hrange := isDigit_iff.1 h
  simp only [Text.isBlank, Bool.or_eq_false_iff, Bool.and_eq_false_iff, decide_eq_false_iff_not,
    beq_eq_false_iff_ne]
  omega

theorem digits?_eq (h : ∀ c ∈ chars, isDigit c = true) :
    Text.digits? chars = some (Nat.ofDigitChars 10 chars 0) := by
  suffices hfold : ∀ start, chars.foldlM (fun value c => (Text.digit? c).map (value * 10 + ·)) start
      = some (Nat.ofDigitChars 10 chars start) from hfold 0
  induction chars with
  | nil =>
      exact fun start => rfl
  | cons c chars ih =>
      obtain ⟨hfirst, hrest⟩ := List.forall_mem_cons.1 h
      intro start
      have hdigit : Text.digit? c = some (c.toNat - '0'.toNat) := if_pos hfirst
      rw [List.foldlM_cons, hdigit, Option.map_some, Option.bind_eq_bind, Option.bind_some,
        ih hrest, Nat.ofDigitChars_cons, Nat.mul_comm]

theorem takeWhile_of_endsDigits (h : EndsDigits rest) : rest.takeWhile isDigit = [] := by
  cases rest with
  | nil =>
      rfl
  | cons c rest =>
      exact List.takeWhile_cons_of_neg (Bool.eq_false_iff.1 h)

theorem EndsDigits.take (h : EndsDigits rest) (count : Nat) : EndsDigits (rest.take count) := by
  cases rest with
  | nil =>
      rw [List.take_nil]
      exact h
  | cons c rest =>
      cases count with
      | zero => trivial
      | succ count => exact h

theorem isDigit_of_mem_padded (h : c ∈ padded width n) : isDigit c = true := by
  rcases List.mem_append.1 h with hzero | hdigit
  · rw [(List.mem_replicate.1 hzero).2]
    decide
  · have hdigit := Nat.isDigit_of_mem_toDigits (by decide) (by decide) hdigit
    rw [Char.isDigit, Bool.and_eq_true, decide_eq_true_eq, decide_eq_true_eq] at hdigit
    exact isDigit_iff.2 hdigit

theorem padded_ne_nil : padded width n ≠ [] :=
  List.append_ne_nil_of_right_ne_nil _ Nat.toDigits_ne_nil

theorem length_padded (hwidth : 0 < width) (hn : n < 10 ^ width) :
    (padded width n).length = width := by
  have hdigits : (Nat.toDigits 10 n).length ≤ width :=
    (Nat.length_toDigits_le_iff (by decide) hwidth).2 hn
  rw [padded, List.length_append, List.length_replicate]
  omega

theorem digits?_padded : Text.digits? (padded width n) = some n := by
  rw [digits?_eq fun _ => isDigit_of_mem_padded, padded, Nat.ofDigitChars_append,
    Nat.ofDigitChars_replicate_zero, Nat.mul_zero, Nat.ofDigitChars_ten_toDigits]

/-- A padded number is read up to its end. -/
theorem readDigits_padded (hlength : (padded width n).length ≤ most) (h : EndsDigits rest) :
    readDigits most (padded width n ++ rest) = some (n, (padded width n).length, rest) := by
  have hsome : (padded width n).isEmpty = false := List.isEmpty_eq_false_iff.2 padded_ne_nil
  have htake : ((padded width n ++ rest).take most).takeWhile isDigit = padded width n := by
    rw [List.take_append, List.take_of_length_le hlength,
      List.takeWhile_append_of_pos fun _ => isDigit_of_mem_padded,
      takeWhile_of_endsDigits (h.take _), List.append_nil]
  simp only [readDigits, htake, hsome, digits?_padded, List.drop_left, Option.map_some,
    Bool.false_eq_true, if_false]

theorem exists_cons_padded (width n : Nat) :
    ∃ c digits, padded width n = c :: digits ∧ isDigit c = true := by
  obtain ⟨c, digits, hdigits⟩ := List.exists_cons_of_ne_nil (@padded_ne_nil width n)
  refine ⟨c, digits, hdigits, @isDigit_of_mem_padded c width n ?_⟩
  rw [hdigits]
  exact List.mem_cons_self

theorem padded_append_ne_cons (h : isDigit c = false) {more : List Char} :
    padded width n ++ rest ≠ c :: more := by
  obtain ⟨d, digits, hdigits, hdigit⟩ := exists_cons_padded width n
  rw [hdigits, List.cons_append]
  intro heq
  rw [(List.cons.inj heq).1, h] at hdigit
  cases hdigit

/-- A padded number has no blanks before it. -/
theorem skipBlanks_padded : skipBlanks (padded width n ++ rest) = padded width n ++ rest := by
  obtain ⟨c, digits, hdigits, hdigit⟩ := exists_cons_padded width n
  rw [hdigits, List.cons_append, skipBlanks,
    List.dropWhile_cons_of_neg (Bool.eq_false_iff.1 (isBlank_of_isDigit hdigit))]

end Digits

/-! ## Parts of the text -/

section Parts

variable {rest : List Char}

theorem readPair_padded {n : Nat} (hn : n < 100) (h : EndsDigits rest) :
    readPair (padded 2 n ++ rest) = some (n, rest) := by
  have hlength : (padded 2 n).length ≤ 2 := Nat.le_of_eq (length_padded (by decide) hn)
  rw [readPair, skipBlanks_padded, readDigits_padded hlength h, Option.map_some]

theorem readYear_yearText (year : Int) (h : EndsDigits rest) :
    readYear (yearText year ++ rest) = some (year, rest) := by
  rw [yearText]
  split
  · -- Up to four digits stand without a sign, and a digit is none.
    rename_i hshort
    have hsize : year.natAbs < 10 ^ 4 := by omega
    have hlength : (padded 4 year.natAbs).length ≤ 4 :=
      Nat.le_of_eq (length_padded (by decide) hsize)
    have hvalue : ((year.natAbs : Nat) : Int) = year := by omega
    rw [readYear, skipBlanks_padded]
    split
    · rename_i hminus
      exact absurd hminus (padded_append_ne_cons (by decide))
    · rename_i hplus
      exact absurd hplus (padded_append_ne_cons (by decide))
    · simp only [readDigits_padded hlength h, Option.map_some, hvalue]
  · have hlength : (padded 4 year.natAbs).length ≤ (padded 4 year.natAbs ++ rest).length := by
      rw [List.length_append]
      exact Nat.le_add_right _ _
    split
    · rename_i hneg
      have hskip : skipBlanks ('-' :: (padded 4 year.natAbs ++ rest)) =
          '-' :: (padded 4 year.natAbs ++ rest) := rfl
      have hvalue : -((year.natAbs : Nat) : Int) = year := by omega
      rw [List.cons_append, readYear, hskip]
      simp only [readDigits_padded hlength h, Option.map_some, hvalue]
    · have hskip : skipBlanks ('+' :: (padded 4 year.natAbs ++ rest)) =
          '+' :: (padded 4 year.natAbs ++ rest) := rfl
      have hvalue : ((year.natAbs : Nat) : Int) = year := by omega
      rw [List.cons_append, readYear, hskip]
      simp only [readDigits_padded hlength h, Option.map_some, hvalue]

theorem readFraction_fractionText {nano : Nat} (hnano : nano < 1000000000) :
    readFraction (fractionText nano ++ ['Z']) = some (nano, ['Z']) := by
  have hend : EndsDigits ['Z'] := rfl
  -- The fraction has no more digits than it needs, and the value is scaled to nine again.
  have hpart : ∀ {width n : Nat}, 0 < width → width ≤ 9 → n < 10 ^ width →
      readFraction ('.' :: padded width n ++ ['Z']) = some (n * Nat.pow 10 (9 - width), ['Z']) := by
    intro width n hpos hmost hn
    have hlength := length_padded hpos hn
    have hfits : (padded width n).length ≤ 9 := Nat.le_trans (Nat.le_of_eq hlength) hmost
    rw [List.cons_append, readFraction, readDigits_padded hfits hend, hlength]
    rfl
  rw [fractionText]
  split
  · rename_i hzero
    rw [hzero]
    rfl
  · split
    · rename_i hmillis
      have hvalue : nano / 1000000 * Nat.pow 10 (9 - 3) = nano :=
        Nat.div_mul_cancel (Nat.dvd_of_mod_eq_zero hmillis)
      rw [hpart (by decide) (by decide) (by omega), hvalue]
    · split
      · rename_i hmicros
        have hvalue : nano / 1000 * Nat.pow 10 (9 - 6) = nano :=
          Nat.div_mul_cancel (Nat.dvd_of_mod_eq_zero hmicros)
        rw [hpart (by decide) (by decide) (by omega), hvalue]
      · rw [hpart (by decide) (by decide) hnano, Nat.sub_self]
        exact congrArg (fun value => some (value, ['Z'])) (Nat.mul_one nano)

end Parts

/-! ## Instants -/

theorem ofParts?_date (d : Date) : Date.ofParts? d.year d.month d.day = some d :=
  dif_pos d.isDate

theorem ofParts?_time (t : Timestamp) :
    ofParts? t.date t.hour t.minute t.second t.nano = some t :=
  dif_pos t.isTime

theorem ofLocal?_universal (t : Timestamp) :
    ofLocal? t.date t.hour t.minute t.second t.nano 0 = some t := by
  obtain ⟨hhour, hminute, _, _⟩ := t.isTime
  have hnotNegative : ¬ ((t.hour * 60 + t.minute : Int) - 0 < 0) := by omega
  have hnotLate : ¬ (1440 ≤ (t.hour * 60 + t.minute : Int) - 0) := by omega
  have hofDay : (((t.hour * 60 + t.minute : Int) - 0) % 1440).toNat = t.hour * 60 + t.minute := by
    omega
  have hhourBack : (t.hour * 60 + t.minute) / 60 = t.hour := by omega
  have hminuteBack : (t.hour * 60 + t.minute) % 60 = t.minute := by omega
  simp only [ofLocal?, ofParts?_time, hnotNegative, hnotLate, hofDay, hhourBack, hminuteBack,
    if_false, Option.bind_eq_bind, Option.bind_some]

theorem daysInMonth_le (year : Int) (month : Nat) : daysInMonth year month ≤ 31 := by
  unfold daysInMonth
  split
  case h_5 =>
    split <;> decide
  all_goals decide

/-- Every instant is read back from its text. -/
theorem ofText?_text (t : Timestamp) : ofText? t.text = some t := by
  -- Every number fits in its places, and what stands behind it is no digit.
  obtain ⟨_, ⟨_, hmonth⟩, _, hday⟩ := t.date.isDate
  obtain ⟨hhour, hminute, hsecond, hnano⟩ := t.isTime
  have hdays := daysInMonth_le t.date.year t.date.month
  have hends : ∀ {c more}, isDigit c = false → EndsDigits (c :: more) := id
  have hfraction : EndsDigits (fractionText t.nano ++ ['Z']) := by
    rw [fractionText]
    split
    · rfl
    · split
      · rfl
      · split <;> rfl
  have hsign : ∀ more, readSign '-' ('-' :: more) = some more := fun _ => rfl
  have hcolon : ∀ more, readSign ':' (':' :: more) = some more := fun _ => rfl
  have hseparator : ∀ more, readSeparator ('T' :: more) = some more := fun _ => rfl
  have hoffset : readOffset (skipBlanks ['Z']) = some (0, []) := rfl
  have hover : (skipBlanks []).isEmpty = true := rfl
  -- The text is taken apart from the left, part by part.
  rw [ofText?, text, String.toList_ofList]
  simp only [List.append_assoc, List.cons_append, Option.bind_eq_bind]
  rw [readYear_yearText _ (hends rfl)]
  simp only [Option.bind_some, hsign]
  rw [readPair_padded (by omega) (hends rfl)]
  simp only [Option.bind_some, hsign]
  rw [readPair_padded (by omega) (hends rfl)]
  simp only [Option.bind_some, hseparator]
  rw [readPair_padded (by omega) (hends rfl)]
  simp only [Option.bind_some, hcolon]
  rw [readPair_padded (by omega) (hends rfl)]
  simp only [Option.bind_some, hcolon]
  rw [readPair_padded (by omega) hfraction]
  simp only [Option.bind_some, readFraction_fractionText hnano, hoffset]
  rw [if_pos hover, ofParts?_date, Option.bind_some, ofLocal?_universal]

end Timestamp
end TileRules
