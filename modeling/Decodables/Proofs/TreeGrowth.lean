/-
  Decodables.Proofs.TreeGrowth — what new directories and new contents leave as it was.

  A name leads to a place through directories that exist. A tree that keeps its directories
  keeps these ways, so a name that led somewhere still leads there. Neither a directory
  that is made nor a file that is written stands where a directory was.

  Proved, over every tree and name:
  - `find_ok_of_keeps`: what a name leads to, in a tree that keeps its directories.
  - `makeDirectory_grown`: a directory that is made is the one thing that is new, and its
    name leads to it.
  - `Grown.trans`, `Grown.file_iff`: any number of new directories leaves every file alone.
  - `write_spec`: a file that is written is read back by its name, and nothing else has
    changed.
  - `Grown.delivered`: what directories that are made and then a file that is written leave.
-/

import Decodables.FileTree

namespace Decodables.FileTree

variable {t u v : FileTree}

/-! ## Entries -/

theorem put_entry {p : Place} (hp : p ≠ []) (e : Entry) (q : Place) :
    entry? (t.put p e) q = if q = p then some e else t.entry? q := by
  have others : ∀ entries : List (Place × Entry), q ≠ p → (entries.filter (·.1 != p)).lookup q = entries.lookup q := by
    intro entries hq
    induction entries with
    | nil => rfl
    | cons f entries ih =>
      by_cases kept : f.1 = p
      · have other : (q == f.1) = false := by rw [kept]; exact beq_eq_false_iff_ne.mpr hq
        rw [List.filter_cons_of_neg (by simp [kept]), ih, List.lookup_cons, other]
      · rw [List.filter_cons_of_pos (by simp [kept]), List.lookup_cons, List.lookup_cons, ih]
  unfold entry? put
  by_cases hq : q = p
  · subst hq
    simp [hp]
  · rw [if_neg hq]
    split
    · rfl
    · rw [List.lookup_cons, beq_eq_false_iff_ne.mpr hq]
      exact others t.entries hq

/-! ## Ways -/

theorem bind_ok_iff {ε α β : Type} {x : Except ε α} {f : α → Except ε β} {b : β} :
    (x >>= f) = .ok b ↔ ∃ a, x = .ok a ∧ f a = .ok b := by
  cases x with
  | error fault => exact iff_of_false nofun nofun
  | ok a => exact ⟨fun h => ⟨a, rfl, h⟩, fun ⟨_, ha, h⟩ => by cases ha; exact h⟩

/-- Every directory of the one tree is one of the other, and relative names start at the
    same place. -/
structure Keeps (t u : FileTree) : Prop where
  home : u.home = t.home
  directory : ∀ p, t.entry? p = some .directory → u.entry? p = some .directory

theorem enter_ok_of_keeps (keeps : Keeps t u) {here place : Place} {segment : String}
    (h : t.enter here segment = .ok place) : u.enter here segment = .ok place := by
  unfold enter at h ⊢
  by_cases idle : segment = "" ∨ segment = "."
  · rw [if_pos idle] at h ⊢
    exact h
  · rw [if_neg idle] at h ⊢
    by_cases up : segment = ".."
    · rw [if_pos up] at h ⊢
      exact h
    · rw [if_neg up] at h ⊢
      split at h
      · rename_i directory
        rw [keeps.directory _ directory]
        exact h
      · cases h
      · cases h

theorem descend_ok_of_keeps (keeps : Keeps t u) {start place : Place} {segments : List String}
    (h : t.descend start segments = .ok place) : u.descend start segments = .ok place := by
  induction segments generalizing place with
  | nil => exact h
  | cons segment before ih =>
    obtain ⟨here, way, step⟩ := bind_ok_iff.mp h
    exact bind_ok_iff.mpr ⟨here, ih way, enter_ok_of_keeps keeps step⟩

theorem find_ok_of_keeps (keeps : Keeps t u) {name : String} {d : Destination} (h : t.find name = .ok d) :
    u.find name = .ok d := by
  unfold find at h ⊢
  rw [keeps.home]
  dsimp only at h ⊢
  by_cases empty : name.isEmpty
  · rw [if_pos empty] at h
    cases h
  · rw [if_neg empty] at h ⊢
    split at h
    · exact h
    · obtain ⟨here, way, last⟩ := bind_ok_iff.mp h
      exact bind_ok_iff.mpr ⟨here, descend_ok_of_keeps keeps way, last⟩

def Leads (t : FileTree) (name : String) (p : Place) : Prop :=
  t.find name = .ok (.directory p) ∨ ∃ parent last slash, t.find name = .ok (.within parent last slash) ∧ p = last :: parent

theorem Leads.of_keeps (keeps : Keeps t u) {name : String} {p : Place} (h : t.Leads name p) : u.Leads name p := by
  rcases h with h | ⟨parent, last, slash, h, hp⟩
  · exact .inl (find_ok_of_keeps keeps h)
  · exact .inr ⟨parent, last, slash, find_ok_of_keeps keeps h, hp⟩

/-! ## Growth -/

/-- Nothing is new but directories to which some of the names lead, and nothing is gone. -/
structure Grown (names : List String) (t u : FileTree) : Prop where
  home : u.home = t.home
  kept : ∀ {p e}, t.entry? p = some e → u.entry? p = some e
  new : ∀ {p e}, u.entry? p = some e → t.entry? p = some e ∨ (e = .directory ∧ ∃ name ∈ names, u.Leads name p)

namespace Grown

variable {names more : List String}

theorem keeps (h : Grown names t u) : Keeps t u := ⟨h.home, fun _ => h.kept⟩

theorem refl (t : FileTree) : Grown names t t := ⟨rfl, id, .inl⟩

theorem mono (h : Grown names t u) (sub : names ⊆ more) : Grown more t u where
  home := h.home
  kept := h.kept
  new := fun he => (h.new he).imp id fun ⟨directory, name, mem, leads⟩ => ⟨directory, name, sub mem, leads⟩

theorem trans (h : Grown names t u) (h' : Grown names u v) : Grown names t v where
  home := h'.home.trans h.home
  kept := fun he => h'.kept (h.kept he)
  new := by
    intro p e he
    rcases h'.new he with he | new
    · rcases h.new he with he | ⟨directory, name, mem, leads⟩
      · exact .inl he
      · exact .inr ⟨directory, name, mem, leads.of_keeps h'.keeps⟩
    · exact .inr new

/-- The files are the same ones, with the same contents. -/
theorem file_iff (h : Grown names t u) {p : Place} {content : ByteArray} :
    u.entry? p = some (.file content) ↔ t.entry? p = some (.file content) := by
  refine ⟨fun he => ?_, h.kept⟩
  rcases h.new he with he | ⟨directory, _⟩
  · exact he
  · cases directory

end Grown

theorem makeDirectory_ok {name : String} (h : t.makeDirectory name = .ok u) :
    ∃ parent last slash, t.find name = .ok (.within parent last slash) ∧ t.entry? (last :: parent) = none ∧
      u = t.put (last :: parent) .directory := by
  obtain ⟨destination, way, made⟩ := bind_ok_iff.mp h
  cases destination with
  | directory place => cases made
  | within parent last slash =>
    dsimp only at made
    split at made
    · cases made
    · rename_i free
      cases made
      exact ⟨parent, last, slash, way, free, rfl⟩

/-- An entry that is put where no directory is leaves all directories as they are. -/
theorem keeps_put {p : Place} (hp : p ≠ []) (free : t.entry? p ≠ some .directory) (e : Entry) : Keeps t (t.put p e) where
  home := rfl
  directory := by
    intro q hq
    rw [put_entry hp, if_neg]
    · exact hq
    · rintro rfl
      exact free hq

theorem makeDirectory_grown {name : String} (h : t.makeDirectory name = .ok u) : Grown [name] t u := by
  obtain ⟨parent, last, slash, way, free, rfl⟩ := makeDirectory_ok h
  have keeps : Keeps t (t.put (last :: parent) .directory) := keeps_put (by simp) (by simp [free]) _
  refine ⟨rfl, fun {p e} he => ?_, fun {p e} he => ?_⟩
  · rw [put_entry (by simp), if_neg]
    · exact he
    · rintro rfl
      rw [free] at he
      cases he
  · rw [put_entry (by simp)] at he
    split at he
    · rename_i place
      cases he
      have leads : (t.put (last :: parent) .directory).Leads name p :=
        .inr ⟨parent, last, slash, find_ok_of_keeps keeps way, place⟩
      exact .inr ⟨rfl, name, List.mem_singleton.mpr rfl, leads⟩
    · exact .inl he

/-! ## Written files -/

theorem write_ok {name : String} {content : ByteArray} (h : t.write name content = .ok u) :
    ∃ parent last, t.find name = .ok (.within parent last false) ∧ t.entry? (last :: parent) ≠ some .directory ∧
      u = t.put (last :: parent) (.file content) := by
  obtain ⟨destination, way, written⟩ := bind_ok_iff.mp h
  cases destination with
  | directory place => cases written
  | within parent last slash =>
    cases slash with
    | true => cases written
    | false =>
      dsimp only at written
      rw [if_neg Bool.false_ne_true] at written
      split at written
      · cases written
      · rename_i free
        cases written
        exact ⟨parent, last, way, free, rfl⟩

/-- A file that was written is read back by its name, and nothing else is new or gone. -/
theorem write_spec {name : String} {content : ByteArray} (h : t.write name content = .ok u) :
    Keeps t u ∧ u.read name = .ok content ∧ ∃ place, u.Leads name place ∧ u.entry? place = some (.file content) ∧
      ∀ p e, p ≠ place → (u.entry? p = some e ↔ t.entry? p = some e) := by
  obtain ⟨parent, last, way, free, rfl⟩ := write_ok h
  have keeps : Keeps t (t.put (last :: parent) (.file content)) := keeps_put (by simp) free _
  have found := find_ok_of_keeps keeps way
  have there : entry? (t.put (last :: parent) (.file content)) (last :: parent) = some (.file content) := by
    rw [put_entry (by simp), if_pos rfl]
  refine ⟨keeps, ?_, last :: parent, .inr ⟨parent, last, false, found, rfl⟩, there, fun p e hp => ?_⟩
  · exact bind_ok_iff.mpr ⟨_, found, by simp [there]⟩
  · rw [put_entry (by simp), if_neg hp]

/-- What a file leaves that is written after directories were made: it is there, every other
    file is as before, and each new directory is one of those asked for. -/
structure Delivered (names : List String) (name : String) (content : ByteArray) (t u : FileTree) : Prop where
  read : u.read name = .ok content
  place : ∃ place, u.Leads name place ∧
    ∀ p other, p ≠ place → (u.entry? p = some (.file other) ↔ t.entry? p = some (.file other))
  directory : ∀ p, u.entry? p = some .directory → t.entry? p = some .directory ∨ ∃ n ∈ names, u.Leads n p

theorem Grown.delivered {names : List String} {name : String} {content : ByteArray} (grown : Grown names t u)
    (written : u.write name content = .ok v) : Delivered names name content t v := by
  obtain ⟨keeps, read, place, leads, there, others⟩ := write_spec written
  refine ⟨read, ⟨place, leads, fun p other hp => ?_⟩, fun p hd => ?_⟩
  · rw [others p _ hp, grown.file_iff]
  · have elsewhere : p ≠ place := by
      rintro rfl
      rw [there] at hd
      cases hd
    rcases grown.new ((others p _ elsewhere).mp hd) with old | ⟨-, n, mem, led⟩
    · exact .inl old
    · exact .inr ⟨n, mem, led.of_keeps keeps⟩

end Decodables.FileTree
