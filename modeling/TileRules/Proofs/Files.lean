import TileRules.Files
import TileRules.Proofs.Attempts

/-!
# Files — a file that was written is read back

Writing puts a file in place of whatever is at the place of its path, unless that is a directory. So
no directory is lost by it, the path still leads to the same place, and the file is found there.

- `FileSystem.entry?_insert` says what one more entry changes;
- `FileSystem.writeBytes_cases` says everything that a successful write did;
- `FileSystem.place_mono`: a path leads where it led before while its directories are there, and
  `FileSystem.place_insert` is the case of one more entry;
- `FileSystem.readBytes_writeBytes` puts them together.
-/

namespace TileRules
namespace FileSystem

/-! ## Entries -/

section Entries

variable {fs : FileSystem} {path other : FilePath} {e : FileEntry}

theorem lookup_filter_of_ne (entries : List (FilePath × FileEntry)) (h : other ≠ path) :
    (entries.filter (·.1 != path)).lookup other = entries.lookup other := by
  induction entries with
  | nil =>
      rfl
  | cons entry entries ih =>
      obtain ⟨p, found⟩ := entry
      by_cases hp : p = path
      · subst hp
        have hskip : (other == p) = false := beq_eq_false_iff_ne.2 h
        rw [List.filter_cons_of_neg (by simp), List.lookup_cons, hskip, ih]
      · rw [List.filter_cons_of_pos (by simpa using hp), List.lookup_cons, List.lookup_cons, ih]

/-- Nothing stands at the empty path but the directory itself. -/
theorem entry?_insert (hpath : path ≠ []) :
    FileSystem.entry? (fs.insert path e) other =
      if other = path then some e else fs.entry? other := by
  by_cases hother : other = path
  · subst hother
    rw [if_pos rfl, entry?, if_neg hpath, insert, List.lookup_cons, beq_self_eq_true]
  · have hskip : (other == path) = false := beq_eq_false_iff_ne.2 hother
    rw [if_neg hother, entry?, entry?, insert, List.lookup_cons, hskip,
      lookup_filter_of_ne _ hother]

theorem ne_nil_of_free (h : fs.entry? path ≠ some .directory) : path ≠ [] := by
  rintro rfl
  exact h (if_pos rfl)

/-- A directory stays when an entry is put elsewhere than in its place. -/
theorem directory_insert (hfree : fs.entry? path ≠ some .directory)
    (h : fs.entry? other = some .directory) :
    FileSystem.entry? (fs.insert path e) other = some .directory := by
  have hne : other ≠ path := by
    rintro rfl
    exact hfree h
  rw [entry?_insert (ne_nil_of_free hfree), if_neg hne, h]

end Entries

/-! ## Paths -/

section Paths

variable {fs after : FileSystem} {target : FilePath} {e : FileEntry} {path : String}

/-- Following a path only meets directories. -/
theorem enter_mono (hkept : ∀ place, fs.entry? place = some .directory →
      after.entry? place = some .directory) {names : List String} {place directory : FilePath}
    (h : fs.enter place names = .ok directory) : after.enter place names = .ok directory := by
  induction names generalizing place with
  | nil =>
      exact h
  | cons name rest ih =>
      rw [enter] at h ⊢
      by_cases hdot : name = "."
      · rw [if_pos hdot] at h ⊢
        exact ih h
      · rw [if_neg hdot] at h ⊢
        by_cases hup : name = ".."
        · rw [if_pos hup] at h ⊢
          exact ih h
        · rw [if_neg hup] at h ⊢
          by_cases hlong : longestName < name.utf8ByteSize
          · rw [if_pos hlong] at h
            cases h
          · rw [if_neg hlong] at h ⊢
            cases hentry : fs.entry? (place ++ [name]) with
            | none =>
                rw [hentry] at h
                cases h
            | some found =>
                rw [hentry] at h
                cases found with
                | file bytes =>
                    cases h
                | directory =>
                    -- The directory that the path went through is still there.
                    rw [hkept _ hentry]
                    exact ih h

theorem parent_mono (hhome : after.home = fs.home) (hkept : ∀ place,
      fs.entry? place = some .directory → after.entry? place = some .directory)
    {directory : FilePath} (h : fs.parent path = .ok directory) :
    after.parent path = .ok directory := by
  rw [parent] at h ⊢
  obtain ⟨_, hcheck, henter⟩ := bind_eq_ok.1 h
  rw [bind_of_ok hcheck, start, hhome]
  exact enter_mono hkept henter

/-- A path leads where it led before, as long as its directories are there. -/
theorem place_mono (hhome : after.home = fs.home) (hkept : ∀ place,
      fs.entry? place = some .directory → after.entry? place = some .directory)
    {place : FilePath} (h : fs.place path = .ok place) : after.place path = .ok place := by
  rw [FileSystem.place] at h ⊢
  obtain ⟨directory, hparent, hlast⟩ := bind_eq_ok.1 h
  rw [bind_of_ok (parent_mono hhome hkept hparent)]
  exact hlast

theorem parent_insert (hfree : fs.entry? target ≠ some .directory) {directory : FilePath}
    (h : fs.parent path = .ok directory) : (fs.insert target e).parent path = .ok directory :=
  parent_mono (show (fs.insert target e).home = fs.home from rfl)
    (fun _ => directory_insert hfree) h

theorem place_insert (hfree : fs.entry? target ≠ some .directory) {place : FilePath}
    (h : fs.place path = .ok place) : (fs.insert target e).place path = .ok place :=
  place_mono (show (fs.insert target e).home = fs.home from rfl)
    (fun _ => directory_insert hfree) h

end Paths

/-! ## Operations -/

section Operations

variable {fs after : FileSystem} {path : String} {bytes : List UInt8}

/-- Everything that a successful write did. -/
theorem writeBytes_cases (h : fs.writeBytes path bytes = .ok after) :
    ∃ place, asksDirectory path = false ∧ fs.place path = .ok place ∧
      fs.entry? place ≠ some .directory ∧ after = fs.insert place (.file bytes) := by
  rw [writeBytes] at h
  obtain ⟨_, _, h⟩ := bind_eq_ok.1 h
  by_cases hasks : asksDirectory path = true
  · rw [if_pos hasks] at h
    cases h
  · rw [if_neg hasks] at h
    obtain ⟨place, hplace, h⟩ := bind_eq_ok.1 h
    refine ⟨place, Bool.eq_false_iff.2 hasks, hplace, ?_⟩
    split at h
    · cases h
    · rename_i hfree
      cases h
      exact ⟨hfree, rfl⟩

theorem readBytes_writeBytes (h : fs.writeBytes path bytes = .ok after) :
    after.readBytes path = .ok bytes := by
  obtain ⟨place, hasks, hplace, hfree, rfl⟩ := writeBytes_cases h
  have hentry : FileSystem.entry? (fs.insert place (.file bytes)) place = some (.file bytes) := by
    rw [entry?_insert (ne_nil_of_free hfree), if_pos rfl]
  have hfound : (fs.insert place (.file bytes)).find path = .ok (.file bytes) := by
    rw [find, bind_of_ok (place_insert hfree hplace)]
    simp only [hentry, hasks]
    rfl
  rw [readBytes, bind_of_ok hfound]
  rfl

end Operations

end FileSystem
end TileRules
