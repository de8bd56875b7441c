import TileRules.Document
import TileRules.Proofs.Json.Printer
import TileRules.Proofs.Timestamp

/-!
# Document — a text is read as the document that it spells

What is read from a text depends on the document alone, and not on how it is spelled. No document is
a blank text, since it opens with a sign, a letter or a digit.

- `Json.Spells.not_isBlankText` holds of every spelling of a document;
- `Document.ofText_of_spells` reads a value from any text of its document, and
  `Document.ofText_toText` from the text that is written.
-/

namespace TileRules

namespace Json

theorem isBlank_of_startsValue {c : Char} (h : startsValue c = true) : Text.isBlank c = false := by
  rw [startsValue, Bool.or_eq_true, startsNumber, Bool.or_eq_true, beq_iff_eq] at h
  rcases h with (rfl | hdigit) | hsign
  · rfl
  · exact Timestamp.isBlank_of_isDigit hdigit
  · simp only [List.contains_iff_mem, List.mem_cons, List.not_mem_nil, or_false] at hsign
    rcases hsign with rfl | rfl | rfl | rfl | rfl | rfl <;> rfl

theorem Spells.not_isBlankText {j : Json} {text : String} (h : Spells j text.toList) :
    Text.isBlankText text = false := by
  obtain ⟨c, more, hskip, hc⟩ := h.exists_cons []
  rw [List.append_nil] at hskip
  have hmem : c ∈ text.toList := by
    refine (List.dropWhile_sublist isSpace).subset (?_ : c ∈ skipSpace text.toList)
    rw [hskip]
    exact List.mem_cons_self
  exact List.all_eq_false.2 ⟨c, hmem, Bool.eq_false_iff.1 (isBlank_of_startsValue hc)⟩

end Json

open Json

namespace Document

variable {α : Type} [Document α]

/-- The value of a text is that of its document. -/
theorem ofText_of_spells {j : Json} {text : String} (h : Spells j text.toList) :
    (ofText text : Except StorageError α) =
      match (decode j : Option α) with
      | some a => .ok a
      | none => .error (.serialization .unreadable) := by
  rw [ofText, h.not_isBlankText, parse?_of_spells h]
  rfl

theorem ofText_toText {a : α} (hwritten : Written (encode a)) (hdecode : decode (encode a) = some a) :
    ofText (toText a) = .ok a := by
  rw [toText, ofText_of_spells (spells_pretty hwritten), hdecode]

end Document

end TileRules
