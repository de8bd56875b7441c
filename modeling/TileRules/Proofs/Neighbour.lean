import TileRules.Proofs.Files

/-!
# Neighbour — a file and the one that is named after it

The path of a file with an ending behind it leads to a file in the same directory with another name.
So writing one of the two leaves the other one as it was.

- `betweenSlashes_append`: an ending without slashes becomes part of the last name;
- `Leads` splits the path of a file at its last name, and `Leads.place_eq` says where it leads;
- `find_insert_of_ne` says what a write leaves alone, and `find_writeBytes_neighbour` and
  `find_neighbour_writeBytes` apply it in both directions.
-/

namespace TileRules
namespace FileSystem

/-! ## Names -/

theorem betweenSlashes_of_not_mem {chars : List Char} (h : '/' ∉ chars) :
    betweenSlashes chars = [chars] := by
  induction chars with
  | nil =>
      rfl
  | cons c rest ih =>
      obtain ⟨hc, hrest⟩ := not_or.1 (fun hmem => h (List.mem_cons.2 hmem))
      rw [betweenSlashes, if_neg (Ne.symm hc), ih hrest]

/-- An ending without slashes becomes part of the last name. -/
theorem betweenSlashes_append (chars : List Char) :
    ∃ names last, ∀ ending, '/' ∉ ending →
      betweenSlashes (chars ++ ending) = names ++ [last ++ ending] := by
  induction chars with
  | nil =>
      exact ⟨[], [], fun ending hending => betweenSlashes_of_not_mem hending⟩
  | cons c rest ih =>
      obtain ⟨names, last, hrest⟩ := ih
      by_cases hc : c = '/'
      · refine ⟨[] :: names, last, fun ending hending => ?_⟩
        rw [List.cons_append, betweenSlashes, if_pos hc, hrest ending hending, List.cons_append]
      · cases names with
        | nil =>
            refine ⟨[], c :: last, fun ending hending => ?_⟩
            rw [List.cons_append, betweenSlashes, if_neg hc, hrest ending hending]
            rfl
        | cons name names =>
            refine ⟨(c :: name) :: names, last, fun ending hending => ?_⟩
            rw [List.cons_append, betweenSlashes, if_neg hc, hrest ending hending]
            rfl

/-- The path splits into the names of directories and the last name, which is that of an entry. -/
structure Leads (path : String) (names : List String) (last : String) : Prop where
  names : namesOf path = names ++ [last]
  notHere : last ≠ "."
  notUp : last ≠ ".."

/-- What may stand behind the name of a file to make another one. -/
def IsEnding (ending : String) : Prop :=
  '/' ∉ ending.toList ∧ 2 < ending.toList.length

theorem IsEnding.ne_empty {ending : String} (h : IsEnding ending) : ending ≠ "" := by
  rintro rfl
  exact absurd h.2 (by decide)

section Names

variable {fs : FileSystem} {path ending last : String} {names : List String}

/-- A last name that is not empty counts. -/
theorem namesOf_of_betweenSlashes {before : List (List Char)} {name : List Char}
    (h : betweenSlashes path.toList = before ++ [name]) (hname : name ≠ []) :
    namesOf path = (before.filter (· != [])).map String.ofList ++ [String.ofList name] := by
  have hkept : [name].filter (· != []) = [name] :=
    List.filter_cons_of_pos (bne_iff_ne.2 hname)
  rw [namesOf, h, List.filter_append, hkept, List.map_append, List.map_singleton]

/-- The path of a file splits at its last name, and an ending belongs to that. -/
theorem exists_leads (hplain : asksDirectory path = false) (hending : IsEnding ending) :
    ∃ names last, Leads path names last ∧ Leads (path ++ ending) names (last ++ ending) := by
  obtain ⟨hslash, hlong⟩ := hending
  rw [asksDirectory, Bool.or_eq_false_iff, beq_eq_false_iff_ne] at hplain
  obtain ⟨hlast, hdots⟩ := hplain
  have hne : path.toList ≠ [] := by
    intro hnil
    rw [namesOf, hnil] at hdots
    cases hdots
  obtain ⟨chars, c, hchars⟩ := (List.eq_nil_or_concat path.toList).resolve_left hne
  rw [List.concat_eq_append] at hchars
  have hc : c ≠ '/' := by
    rintro rfl
    rw [hchars, List.getLast?_concat] at hlast
    exact hlast rfl
  -- The last character belongs to the last name, so that is not empty and takes the ending.
  obtain ⟨before, name, hbetween⟩ := betweenSlashes_append chars
  have hpath : betweenSlashes path.toList = before ++ [name ++ [c]] := by
    rw [hchars, hbetween [c] (by simpa using hc.symm)]
  have hlonger : betweenSlashes (path ++ ending).toList =
      before ++ [name ++ ([c] ++ ending.toList)] := by
    rw [String.toList_append, hchars, List.append_assoc, hbetween _ (by simp [hc.symm, hslash])]
  have hnames := namesOf_of_betweenSlashes hpath (by simp)
  rw [hnames, List.getLast?_concat, Bool.or_eq_false_iff, beq_eq_false_iff_ne,
    beq_eq_false_iff_ne] at hdots
  -- The longer name has more characters than the dot names.
  have hdotless : ∀ dots : String, dots.toList.length ≤ 2 →
      String.ofList (name ++ [c]) ++ ending ≠ dots := by
    intro dots hdots heq
    rw [← heq, String.toList_append, List.length_append] at hdots
    omega
  obtain ⟨hhere, hup⟩ := hdots
  refine ⟨_, _, ⟨hnames, hhere, hup⟩, ⟨?_, hdotless "." (by decide), hdotless ".." (by decide)⟩⟩
  rw [namesOf_of_betweenSlashes hlonger (by simp), ← List.append_assoc, String.ofList_append,
    String.ofList_toList]

/-- The place of the entry that a path names. -/
theorem Leads.place_eq (h : Leads path names last) :
    fs.place path = (fs.parent path).bind fun directory =>
      if longestName < last.utf8ByteSize then .error .nameTooLong
      else .ok (directory ++ [last]) := by
  have hname : (namesOf path).getLast? = some last := by
    rw [h.names, List.getLast?_concat]
  simp only [FileSystem.place, hname, if_neg h.notHere, if_neg h.notUp]
  rfl

/-- The directory of the entry that a path names. -/
theorem Leads.parent_eq (h : Leads path names last) :
    fs.parent path = (checkPath path).bind fun _ => fs.enter (fs.start path) names := by
  rw [FileSystem.parent, h.names, List.dropLast_concat]
  rfl

theorem ne_empty_of_checkPath (h : checkPath path = .ok ()) : path ≠ "" := by
  rintro rfl
  cases h

theorem start_append (hne : path ≠ "") : fs.start (path ++ ending) = fs.start path := by
  have hchars : path.toList ≠ [] := fun hnil => hne (String.toList_eq_nil_iff.1 hnil)
  obtain ⟨c, chars, hchars⟩ := List.exists_cons_of_ne_nil hchars
  rw [start, start, String.toList_append, hchars]
  rfl

/-- The neighbour of an entry is in the same directory. -/
theorem Leads.place_append {directory : FilePath} (hparent : fs.parent path = .ok directory)
    (h : Leads path names last) (hnext : Leads (path ++ ending) names (last ++ ending)) :
    fs.place (path ++ ending) = (checkPath (path ++ ending)).bind fun _ =>
      if longestName < (last ++ ending).utf8ByteSize then .error .nameTooLong
      else .ok (directory ++ [last ++ ending]) := by
  rw [h.parent_eq] at hparent
  obtain ⟨_, hcheck, henter⟩ := bind_eq_ok.1 hparent
  rw [hnext.place_eq, hnext.parent_eq, start_append (ne_empty_of_checkPath hcheck), henter]
  cases checkPath (path ++ ending) <;> rfl

/-- Where the neighbour of an entry is, if its path leads anywhere. -/
theorem Leads.place_ne {place next : FilePath} (hplace : fs.place path = .ok place)
    (hnextPlace : fs.place (path ++ ending) = .ok next) (h : Leads path names last)
    (hnext : Leads (path ++ ending) names (last ++ ending)) (hending : ending ≠ "") :
    next ≠ place := by
  rw [h.place_eq] at hplace
  obtain ⟨directory, hparent, hplace⟩ := bind_eq_ok.1 hplace
  rw [h.place_append hparent hnext] at hnextPlace
  obtain ⟨_, _, hnextPlace⟩ := bind_eq_ok.1 hnextPlace
  split at hplace
  · cases hplace
  · split at hnextPlace
    · cases hnextPlace
    · cases hplace
      cases hnextPlace
      intro heq
      have hname : last ++ ending = last ++ "" := by
        rw [String.append_empty]
        exact List.singleton_inj.1 (List.append_cancel_left heq)
      exact hending ((String.append_right_inj last).1 hname)

end Names

/-! ## Writing -/

section Writing

variable {fs after : FileSystem} {target place : FilePath} {e : FileEntry}
  {path other ending : String} {bytes : List UInt8}

/-- A write leaves alone what is elsewhere. -/
theorem find_insert_of_ne (hfree : fs.entry? target ≠ some .directory)
    (hplace : fs.place other = .ok place) (hne : place ≠ target) :
    (fs.insert target e).find other = fs.find other := by
  rw [find, find, bind_of_ok (place_insert hfree hplace), bind_of_ok hplace,
    entry?_insert (ne_nil_of_free hfree), if_neg hne]

theorem contains_congr (h : after.find path = fs.find path) :
    after.contains path = fs.contains path := by
  rw [contains, contains, h]

theorem contains_of_readText {text : String} (h : fs.readText path = .ok text) :
    fs.contains path = true := by
  obtain ⟨_, hread, _⟩ := bind_eq_ok.1 h
  obtain ⟨_, hfind, _⟩ := bind_eq_ok.1 hread
  rw [contains, hfind]

theorem readText_congr (h : after.find path = fs.find path) :
    after.readText path = fs.readText path := by
  rw [readText, readText, readBytes, readBytes, h]

/-- What the neighbour of a file leads to does not change when the file is written. -/
theorem find_neighbour_of_writeBytes (hending : IsEnding ending)
    (h : fs.writeBytes path bytes = .ok after) :
    after.find (path ++ ending) = fs.find (path ++ ending) := by
  obtain ⟨place, hplain, hplace, hfree, rfl⟩ := writeBytes_cases h
  obtain ⟨names, last, hleads, hnext⟩ := exists_leads hplain hending
  cases hnextPlace : fs.place (path ++ ending) with
  | ok next =>
      exact find_insert_of_ne hfree hnextPlace
        (hleads.place_ne hplace hnextPlace hnext hending.ne_empty)
  | error fault =>
      -- The directory is the same as before, so the path fails in the same way.
      obtain ⟨directory, hparent, _⟩ := bind_eq_ok.1 hplace
      have hsame : (fs.insert place (.file bytes)).place (path ++ ending) = .error fault := by
        rw [hleads.place_append (parent_insert hfree hparent) hnext, ← hnextPlace,
          hleads.place_append hparent hnext]
      rw [find, find, hsame, hnextPlace]
      rfl

/-- A file can be read as before when its neighbour is written. -/
theorem readBytes_of_writeBytes_neighbour {found : List UInt8} (hplain : asksDirectory path = false)
    (hending : IsEnding ending) (hread : fs.readBytes path = .ok found)
    (h : fs.writeBytes (path ++ ending) bytes = .ok after) : after.readBytes path = .ok found := by
  obtain ⟨next, _, hnextPlace, hfree, rfl⟩ := writeBytes_cases h
  obtain ⟨names, last, hleads, hnext⟩ := exists_leads hplain hending
  obtain ⟨entry, hfind, _⟩ := bind_eq_ok.1 hread
  obtain ⟨place, hplace, _⟩ := bind_eq_ok.1 hfind
  have hsame : (fs.insert next (.file bytes)).find path = fs.find path :=
    find_insert_of_ne hfree hplace
      (hleads.place_ne hplace hnextPlace hnext hending.ne_empty).symm
  rw [readBytes] at hread ⊢
  rw [hsame, hread]

end Writing

end FileSystem
end TileRules
