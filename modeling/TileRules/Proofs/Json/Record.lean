import TileRules.Json.Record
import TileRules.Proofs.Json.Printer

/-!
# Json record — a typed value is read back from its document

Numbers are written with their digits, lists item by item, and records field by field. Reading such
a document gives the value back, as long as its numbers fit.

- `integer?_int` and `nat?_nat` read numbers, `word?_nat` and `int32?_int` those of machine types;
- `list?_map` reads a list whose items can be read, and `vector?_map` one of fixed length;
- `enumeration?_text` finds a member of an enumeration by its name;
- `record?_ofFields` finds the fields of a record;
- `Spoils` are the members that make a record unreadable, and `exists_record` finds the fields
  among all others in any order;
- `Sets` says what members give to a field that may be missing, and `Sets.optional` reads it.
-/

namespace TileRules
namespace Json

/-! ## Simple values -/

theorem bool?_bool (value : Bool) : (Json.bool value).bool? = some value :=
  rfl

theorem text?_text (s : String) : (Json.text s).text? = some s :=
  rfl

theorem bool?_of_eq (value : Bool) (j : Json) (h : j = .bool value) : j.bool? = some value := by
  rw [h, bool?_bool]

theorem text?_of_eq (s : String) (j : Json) (h : j = .text s) : j.text? = some s := by
  rw [h, text?_text]

/-! ## Numbers -/

theorem plainNat?_toDigits (n : Nat) : plainNat? (Nat.toDigits 10 n) = some n := by
  have hall : (Nat.toDigits 10 n).all isPlainDigit = true :=
    List.all_eq_true.2 fun _ hc => isDigit_of_mem_toDigits hc
  have hvalue := Nat.ofDigitChars_ten_toDigits (n := n)
  rw [Nat.ofDigitChars_eq_foldl] at hvalue
  simp only [Nat.mul_comm 10] at hvalue
  rw [plainNat?, if_pos hall]
  exact congrArg some hvalue

theorem integer?_nat (n : Nat) : (nat n).integer? = some (n : Int) := by
  rw [nat, integer?, plainNat?_toDigits]
  · rfl
  · -- A digit is no minus sign.
    intro digits h
    obtain ⟨c, more, hmore, hdigit⟩ := (isDigits_toDigits n).exists_cons
    rw [hmore] at h
    rw [(List.cons.inj h).1] at hdigit
    exact absurd hdigit (by decide)

theorem integer?_int (i : Int) : (int i).integer? = some i := by
  rw [int]
  split
  · rename_i hneg
    have hne : i.natAbs ≠ 0 := by omega
    rw [integer?, plainNat?_toDigits, Option.bind_some, if_neg hne]
    exact congrArg some (by omega)
  · rename_i hpos
    rw [integer?_nat]
    exact congrArg some (by omega)

theorem nat?_nat {limit n : Nat} (h : n ≤ limit) : (nat n).nat? limit = some n := by
  have hin : (0 : Int) ≤ n ∧ (n : Int) ≤ limit := by omega
  rw [nat?, integer?_nat, Option.bind_some, if_pos hin, Int.toNat_natCast]

theorem size?_nat {n : Nat} (h : n < UInt64.size) : (nat n).size? = some n :=
  nat?_nat (Nat.le_pred_of_lt h)

theorem word?_nat (word : UInt32) : (Json.nat word.toNat).word? = some word := by
  have hlimit : word.toNat ≤ UInt32.size - 1 := Nat.le_pred_of_lt word.toNat_lt
  rw [word?, nat?_nat hlimit, Option.map_some, UInt32.ofNat_toNat]

/-- The number fits in 32 bits with a sign. -/
def IsInt32 (i : Int) : Prop :=
  -2147483648 ≤ i ∧ i ≤ 2147483647

instance (i : Int) : Decidable (IsInt32 i) :=
  inferInstanceAs (Decidable (_ ∧ _))

theorem int32?_int {i : Int} (h : IsInt32 i) : (Json.int i).int32? = some i := by
  simp [int32?, integer?_int, h.1, h.2]

/-! ## Lists -/

theorem list?_map {α : Type} {encode : α → Json} {item : Json → Option α} {list : List α}
    (h : ∀ a ∈ list, item (encode a) = some a) :
    (array (list.map encode)).list? item = some list := by
  rw [list?]
  induction list with
  | nil =>
      rfl
  | cons a list ih =>
      obtain ⟨hfirst, hrest⟩ := List.forall_mem_cons.1 h
      rw [List.map_cons, List.mapM_cons, hfirst, ih hrest]
      rfl

theorem vector?_map {α : Type} {n : Nat} {encode : α → Json} {item : Json → Option α}
    {items : Vector α n} (h : ∀ a ∈ items.toList, item (encode a) = some a) :
    (array (items.toList.map encode)).vector? n item = some items := by
  rw [vector?, list?_map h]
  exact dif_pos items.length_toList

/-! ## Names -/

/-- The member of an enumeration that has the name is found by it. -/
theorem enumeration?_text {α : Type} {all : List α} {name : α → String} {a : α}
    (h : (all.find? fun b => name b == name a) = some a) :
    enumeration? all name (.text (name a)) = some a := by
  simpa [enumeration?, Json.text, variant?] using h

/-! ## Records -/

theorem knownMembers_map {names : List String} {fields : List (String × Json)}
    (hknown : ∀ field ∈ fields, field.1 ∈ names) (honce : (fields.map (·.1)).Nodup) :
    knownMembers names (fields.map fun (name, value) => (some name, value)) = some fields := by
  induction fields with
  | nil =>
      rfl
  | cons field fields ih =>
      obtain ⟨hfirst, hrest⟩ := List.forall_mem_cons.1 hknown
      rw [List.map_cons, List.nodup_cons] at honce
      have hnew : fields.lookup field.1 = none := by
        rw [List.lookup_eq_none_iff]
        intro other hother
        refine bne_iff_ne.2 fun heq => honce.1 ?_
        rw [heq]
        exact List.mem_map_of_mem hother
      rw [List.map_cons, knownMembers, ih hrest honce.2]
      simp only [List.contains_iff_mem.2 hfirst, if_true, hnew, Option.isSome_none,
        Bool.false_eq_true, if_false]

/-- A record that is written with all its fields gives them back. -/
theorem record?_ofFields {names : List String} {fields : List (String × Json)}
    (hnames : fields.map (·.1) = names) (honce : names.Nodup) :
    (ofFields fields).record? names = some ⟨fields⟩ := by
  subst hnames
  rw [ofFields, record?, knownMembers_map (fun _ h => List.mem_map_of_mem h) honce, Option.map_some]

/-! ## Members in any order -/

/-- The values that stand under a name. -/
def given (name : String) (members : List (Option String × Json)) : List Json :=
  (members.filter (·.1 == some name)).map (·.2)

/-- No record with these fields can be read: a member has no name, or a field is given twice. -/
inductive Spoils (names : List String) (members : List (Option String × Json)) : Prop
  | nameless {value : Json} : (none, value) ∈ members → Spoils names members
  | twice {name : String} : name ∈ names → 2 ≤ (given name members).length → Spoils names members

section Members

variable {names : List String} {name : String} {members : List (Option String × Json)}

theorem given_cons_self (name : String) (value : Json) (members : List (Option String × Json)) :
    given name ((some name, value) :: members) = value :: given name members := by
  rw [given, List.filter_cons_of_pos (by simp)]
  rfl

theorem given_cons_of_ne {other : Option String} (h : other ≠ some name) (value : Json)
    (members : List (Option String × Json)) :
    given name ((other, value) :: members) = given name members := by
  rw [given, List.filter_cons_of_neg (by simpa using h)]
  rfl

theorem length_given_cons (name : String) (m : Option String × Json)
    (members : List (Option String × Json)) :
    (given name members).length ≤ (given name (m :: members)).length :=
  ((List.sublist_cons_self m members).filter _).map _ |>.length_le

theorem Spoils.cons (h : Spoils names members) (m : Option String × Json) :
    Spoils names (m :: members) := by
  cases h with
  | nameless hmem =>
      exact .nameless (List.mem_cons_of_mem _ hmem)
  | twice hname htwice =>
      exact .twice hname (Nat.le_trans htwice (length_given_cons _ m members))

theorem not_spoils (hnamed : ∀ m ∈ members, m.1 ≠ none)
    (honce : ∀ name ∈ names, ¬ 2 ≤ (given name members).length) : ¬ Spoils names members := by
  intro h
  cases h with
  | nameless hmem =>
      exact hnamed _ hmem rfl
  | twice hname htwice =>
      exact honce _ hname htwice

/-- What is found is what is given, at most once under each name, and every member has a name. -/
theorem given_of_knownMembers {found : List (String × Json)}
    (h : knownMembers names members = some found) :
    (∀ m ∈ members, m.1 ≠ none) ∧
      ∀ name ∈ names, given name members = (found.lookup name).toList := by
  induction members generalizing found with
  | nil =>
      cases h
      exact ⟨fun _ hm => absurd hm List.not_mem_nil, fun _ _ => rfl⟩
  | cons m members ih =>
      obtain ⟨other, value⟩ := m
      cases other with
      | none =>
          cases h
      | some other =>
          rw [knownMembers] at h
          cases hrest : knownMembers names members with
          | none =>
              rw [hrest] at h
              cases h
          | some more =>
              obtain ⟨hnamed, hgiven⟩ := ih hrest
              refine ⟨List.forall_mem_cons.2 ⟨nofun, hnamed⟩, fun name hname => ?_⟩
              simp only [hrest] at h
              split at h
              · split at h
                · cases h
                · rename_i hnew
                  cases h
                  by_cases hsame : other = name
                  · subst hsame
                    rw [given_cons_self, hgiven _ hname, Option.not_isSome_iff_eq_none.1 hnew,
                      List.lookup_cons_self]
                    rfl
                  · have hne : (name == other) = false := beq_false_of_ne (Ne.symm hsame)
                    rw [given_cons_of_ne (by simpa using hsame), hgiven _ hname, List.lookup_cons,
                      hne]
              · rename_i hunknown
                cases h
                have hsame : other ≠ name := by
                  rintro rfl
                  exact hunknown (List.contains_iff_mem.2 hname)
                rw [given_cons_of_ne (by simpa using hsame), hgiven _ hname]

theorem exists_knownMembers (h : ¬ Spoils names members) :
    ∃ found, knownMembers names members = some found := by
  induction members with
  | nil =>
      exact ⟨[], rfl⟩
  | cons m members ih =>
      obtain ⟨found, hfound⟩ := ih fun hspoils => h (hspoils.cons m)
      obtain ⟨name, value⟩ := m
      cases name with
      | none =>
          exact absurd (.nameless List.mem_cons_self) h
      | some name =>
          simp only [knownMembers, hfound]
          split
          · rename_i hknown
            have hname : name ∈ names := List.contains_iff_mem.1 hknown
            have hnew : ¬ (found.lookup name).isSome = true := by
              intro hfield
              obtain ⟨other, hother⟩ := Option.isSome_iff_exists.1 hfield
              refine h (.twice hname ?_)
              rw [given_cons_self, (given_of_knownMembers hfound).2 name hname, hother]
              exact Nat.le_refl 2
            rw [if_neg hnew]
            exact ⟨_, rfl⟩
          · exact ⟨_, rfl⟩

/-- Members that do not spoil the record give it its fields. -/
theorem exists_record (h : ¬ Spoils names members) :
    ∃ r, (object members).record? names = some r ∧
      ∀ name ∈ names, given name members = (r.get? name).toList := by
  obtain ⟨found, hfound⟩ := exists_knownMembers h
  refine ⟨⟨found⟩, ?_, (given_of_knownMembers hfound).2⟩
  rw [record?, hfound]
  rfl

/-- A value that is given is the one that is read. -/
theorem Record.optional_of_mem {α : Type} {r : Record} {j : Json}
    (hr : given name members = (r.get? name).toList) (h : j ∈ given name members)
    (read : Json → Option α) (missing : α) : r.optional name read missing = read j := by
  rw [hr, Option.mem_toList] at h
  rw [optional, Option.mem_def.1 h]

theorem record?_of_spoils (h : Spoils names members) : (object members).record? names = none := by
  rw [record?, Option.map_eq_none_iff, Option.eq_none_iff_forall_ne_some]
  intro found hfound
  obtain ⟨hnamed, hgiven⟩ := given_of_knownMembers hfound
  refine not_spoils hnamed (fun name hname => ?_) h
  rw [hgiven name hname]
  exact Nat.not_le_of_lt (Nat.lt_succ_of_le Option.length_toList_le)

end Members

/-! ## Settings that may be missing -/

/-- One value of this form stands under the name, or none. -/
def Sets {α : Type} (form : α → Json → Prop) (name : String)
    (members : List (Option String × Json)) : Option α → Prop
  | none => given name members = []
  | some a => ∃ j, given name members = [j] ∧ form a j

section Settings

variable {α β : Type} {form : α → Json → Prop} {name : String}
  {members : List (Option String × Json)} {choice : Option α}

theorem Sets.length_given_lt (h : Sets form name members choice) :
    ¬ 2 ≤ (given name members).length := by
  cases choice with
  | none =>
      rw [show given name members = [] from h]
      exact Nat.not_succ_le_zero 1
  | some a =>
      obtain ⟨j, hgiven, _⟩ := h
      rw [hgiven]
      exact Nat.not_succ_le_self 1

/-- A field that may be missing is read as it is set. -/
theorem Sets.optional (h : Sets form name members choice) {r : Record}
    (hr : given name members = (r.get? name).toList) {read : Json → Option β} (value : α → β)
    (hread : ∀ a j, form a j → read j = some (value a)) (missing : β) :
    r.optional name read missing = some ((choice.map value).getD missing) := by
  cases choice with
  | none =>
      rw [show given name members = [] from h] at hr
      rw [Record.optional, Option.toList_eq_nil_iff.1 hr.symm]
      rfl
  | some a =>
      obtain ⟨j, hgiven, hform⟩ := h
      rw [hgiven] at hr
      rw [Record.optional, Option.toList_eq_singleton_iff.1 hr.symm]
      exact hread a j hform

theorem Sets.setting (h : Sets form name members choice) {r : Record}
    (hr : given name members = (r.get? name).toList) {read : Json → Option α}
    (hread : ∀ a j, form a j → read j = some a) (missing : α) :
    r.optional name read missing = some (choice.getD missing) := by
  rw [h.optional hr id hread missing, Option.map_id]
  rfl

end Settings

end Json
end TileRules
