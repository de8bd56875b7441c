/-!
# Separated — texts whose parts can be told apart

A text that is put together from parts can be taken apart again if some character marks every seam
and does not occur in the parts. Then two such texts are only equal part by part.

- `Text.Lacks` says that a character does not occur in a text;
- `Text.separated_inj` is one seam, and `Text.intercalate_inj` a list of parts with the same
  separator between them;
- `Text.lines` are the lines of a text, and `Text.lines_join` takes a text apart that was joined
  from lines.
-/

namespace TileRules
namespace Text

/-- The character does not occur in the text. -/
def Lacks (c : Char) (text : String) : Prop :=
  c ∉ text.toList

instance (c : Char) (text : String) : Decidable (Lacks c text) :=
  inferInstanceAs (Decidable (c ∉ text.toList))

section Lacks

variable {c : Char}

@[simp]
theorem lacks_append {a b : String} : Lacks c (a ++ b) ↔ Lacks c a ∧ Lacks c b := by
  simp only [Lacks, String.toList_append, List.mem_append, not_or]

theorem Lacks.intercalate {sep : String} (hsep : Lacks c sep) {parts : List String}
    (h : ∀ part ∈ parts, Lacks c part) : Lacks c (sep.intercalate parts) := by
  induction parts with
  | nil =>
      exact List.not_mem_nil
  | cons part parts ih =>
      obtain ⟨hpart, hparts⟩ := List.forall_mem_cons.1 h
      by_cases hlast : parts = []
      · rwa [hlast, String.intercalate_singleton]
      · rw [String.intercalate_cons_of_ne_nil hlast, lacks_append, lacks_append]
        exact ⟨⟨hpart, hsep⟩, ih hparts⟩

end Lacks

/-! ## Seams -/

theorem append_cons_inj {c : Char} {a a' b b' : List Char} (ha : c ∉ a) (ha' : c ∉ a')
    (h : a ++ c :: b = a' ++ c :: b') : a = a' ∧ b = b' := by
  have hsplit := congrArg (List.splitOn c) h
  rw [List.splitOn_append_cons_self_of_not_mem ha,
    List.splitOn_append_cons_self_of_not_mem ha'] at hsplit
  have hsame := (List.cons.inj hsplit).1
  rw [hsame] at h
  exact ⟨hsame, (List.cons.inj (List.append_cancel_left h)).2⟩

/-- A separator with a character that is not in the parts before it separates them from the rest. -/
theorem separated_inj {sep : String} {c : Char} (hsep : ¬ Lacks c sep) {a a' b b' : String}
    (ha : Lacks c a) (ha' : Lacks c a') (h : a ++ (sep ++ b) = a' ++ (sep ++ b')) :
    a = a' ∧ b = b' := by
  obtain ⟨before, behind, hseam, hbefore⟩ :=
    List.eq_append_cons_of_mem (Decidable.not_not.1 hsep)
  have hparts : ∀ {x : String}, Lacks c x → c ∉ x.toList ++ before :=
    fun hx => List.not_mem_append hx hbefore
  have hlists := congrArg String.toList h
  simp only [String.toList_append, hseam, List.append_assoc, List.cons_append] at hlists
  rw [← List.append_assoc, ← List.append_assoc a'.toList] at hlists
  obtain ⟨hfirst, hsecond⟩ := append_cons_inj (hparts ha) (hparts ha') hlists
  exact ⟨String.toList_injective (List.append_cancel_right hfirst),
    String.toList_injective (List.append_cancel_left hsecond)⟩

theorem intercalate_inj {sep : String} {c : Char} (hsep : ¬ Lacks c sep) {xs ys : List String}
    (hlength : xs.length = ys.length) (hxs : ∀ x ∈ xs, Lacks c x) (hys : ∀ y ∈ ys, Lacks c y)
    (h : sep.intercalate xs = sep.intercalate ys) : xs = ys := by
  induction xs generalizing ys with
  | nil =>
      exact (List.length_eq_zero_iff.1 hlength.symm).symm
  | cons x xs ih =>
      obtain ⟨y, ys, rfl⟩ := List.exists_cons_of_length_eq_add_one hlength.symm
      have hrest : xs.length = ys.length := Nat.succ.inj hlength
      obtain ⟨hx, hxs⟩ := List.forall_mem_cons.1 hxs
      obtain ⟨hy, hys⟩ := List.forall_mem_cons.1 hys
      by_cases hlast : xs = []
      · have hlast' : ys = [] := List.length_eq_zero_iff.1 (by rw [← hrest, hlast, List.length_nil])
        subst hlast hlast'
        simpa using h
      · have hlast' : ys ≠ [] := fun hnil => hlast (List.length_eq_zero_iff.1 (by simp [hrest, hnil]))
        rw [String.intercalate_cons_of_ne_nil hlast, String.intercalate_cons_of_ne_nil hlast',
          String.append_assoc, String.append_assoc] at h
        obtain ⟨hfirst, htail⟩ := separated_inj hsep hx hy h
        rw [hfirst, ih hrest hxs hys htail]

/-! ## Lines -/

/-- The lines of a text. What stands behind the last line end is a line unless it is empty. -/
def lines (text : String) : List String :=
  let pieces := text.toList.splitOn '\n'
  (if pieces.getLast? = some [] then pieces.dropLast else pieces).map String.ofList

theorem splitOn_join {list : List String} (h : ∀ line ∈ list, Lacks '\n' line) :
    (String.join (list.map (· ++ "\n"))).toList.splitOn '\n' = list.map String.toList ++ [[]] := by
  induction list with
  | nil =>
      rfl
  | cons line list ih =>
      obtain ⟨hline, hlist⟩ := List.forall_mem_cons.1 h
      have hend : "\n".toList = ['\n'] := rfl
      rw [List.map_cons, String.join_cons, String.toList_append, String.toList_append, hend,
        List.append_assoc, List.singleton_append, List.splitOn_append_cons_self_of_not_mem hline,
        ih hlist]
      rfl

/-- A text that is joined from lines has these lines. -/
theorem lines_join {list : List String} (h : ∀ line ∈ list, Lacks '\n' line) :
    lines (String.join (list.map (· ++ "\n"))) = list := by
  rw [lines, splitOn_join h]
  simp

/-! ## Numbers -/

theorem natText_inj {n m : Nat} (h : toString n = toString m) : n = m := by
  have hdigits : Nat.toDigits 10 n = Nat.toDigits 10 m := by
    rw [← Nat.toList_repr, ← Nat.toList_repr]
    exact congrArg String.toList h
  rw [← Nat.ofDigitChars_ten_toDigits (n := n), hdigits, Nat.ofDigitChars_ten_toDigits]

theorem lacks_natText {c : Char} (hc : c.isDigit = false) (n : Nat) : Lacks c (toString n) := by
  intro hmem
  have hdigits : c ∈ Nat.toDigits 10 n := by
    rwa [← Nat.toList_repr]
  rw [Nat.isDigit_of_mem_toDigits (by decide) (by decide) hdigits] at hc
  cases hc

end Text
end TileRules
