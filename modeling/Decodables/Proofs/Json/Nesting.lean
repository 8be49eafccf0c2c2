/-
  Decodables.Proofs.Json.Nesting — what is read nests no deeper than the reader may go.

  A container is opened on the budget that its reader has, and what stands in it is read
  on one less. Two things could break the count, and neither does: a key that comes twice
  only replaces one value by another, and a marked object holds nothing once it is read.

  Proved, over every text:
  - `elements_holds`, `entries_holds`: what holds of every value that a reader finds holds
    of every value in the containers that are read with it.
  - `value_opens`: what a value is that was read, and on which budget.
  - `found_nesting_le`: a value nests at most as deep as the budget it was read on.
  - `value_follows`: more budget changes nothing for a text that less is enough for.
  - `ofText?_nesting_le`, `ofText?_error_of_deep`: a document nests at most `maxNesting`
    deep, and a text of a deeper one is no document.
-/

import Decodables.Proofs.Json.ReaderSteps
import Decodables.Proofs.Json.ValueTree

namespace Decodables.Json

theorem mem_putEntry {key : String} {v : Value} {es : List (String × Value)} {e : String × Value}
    (h : e ∈ putEntry key v es) : e = (key, v) ∨ e ∈ es := by
  induction es with
  | nil => exact .inl (List.mem_singleton.mp h)
  | cons f es ih =>
    rw [putEntry] at h
    split at h
    · rcases List.mem_cons.mp h with he | he
      · exact .inl he
      · exact .inr (List.mem_cons_of_mem _ he)
    · rcases List.mem_cons.mp h with he | he
      · exact .inr (he ▸ List.mem_cons_self ..)
      · exact (ih he).imp id (List.mem_cons_of_mem _)

namespace Document

/-! ## What readers hold to -/

variable {P : Value → Prop} {reader : Reader Value} {bound : Nat} {s rest : List Char} {v : Value}

def Finds (P : Value → Prop) (reader : Reader Value) : Prop :=
  ∀ {s rest v}, found (reader s) = some (v, rest) → P v

theorem objectOf_holds {done : List (String × Value)} (h : ∀ e ∈ done, P e.2) :
    ∃ es, objectOf done = .object es ∧ ∀ e ∈ es, P e.2 := by
  refine ⟨_, rfl, ?_⟩
  induction done with
  | nil => exact List.forall_mem_nil _
  | cons f done ih =>
    obtain ⟨first, others⟩ := List.forall_mem_cons.mp h
    intro e he
    rcases mem_putEntry he with rfl | he
    · exact first
    · exact ih others e he

theorem elements_holds (reads : Finds P reader) {done : List Value} {s : List Char} {le : s.length ≤ bound}
    (h : ∀ w ∈ done, P w) (hv : found (elements reader bound done s le) = some (v, rest)) :
    ∃ items, v = .array items ∧ ∀ w ∈ items, P w := by
  fun_induction elements reader bound done s le with
  | case2 done => -- the closing bracket
    cases hv
    exact ⟨_, rfl, fun w hw => h w (List.mem_reverse.mp hw)⟩
  | case6 done _ _ _ _ _ _ _ w read _ _ _ _ ih => -- a comma and an element
    have holds : P w.value := reads (by rw [read, found_ok])
    exact ih (List.forall_mem_cons.mpr ⟨holds, h⟩) hv
  | _ => cases hv

theorem array_holds (reads : Finds P reader) (hv : found (array reader s) = some (v, rest)) :
    ∃ items, v = .array items ∧ ∀ w ∈ items, P w := by
  unfold array at hv
  split at hv
  · cases hv
  · dsimp only at hv
    split at hv
    · cases hv
      exact ⟨[], rfl, List.forall_mem_nil _⟩
    · split at hv
      · cases hv
      · rename_i w read
        have holds : P w.value := reads (by rw [read, found_ok])
        exact elements_holds reads (List.forall_mem_singleton.mpr holds) hv

theorem entry_holds (reads : Finds P reader) {e : String × Value} (he : found (entry reader s) = some (e, rest)) :
    P e.2 := by
  obtain ⟨key, _, he⟩ := found_bind_eq_some_iff.mp he
  obtain ⟨tail, _, he⟩ := found_bind_eq_some_iff.mp he
  obtain ⟨w, read, he⟩ := found_bind_eq_some_iff.mp he
  cases he
  exact reads (by rw [read, found_ok])

theorem entries_holds (reads : Finds P reader) {done : List (String × Value)} {s : List Char} {le : s.length ≤ bound}
    (h : ∀ e ∈ done, P e.2) (hv : found (entries reader bound done s le) = some (v, rest)) :
    ∃ es, v = .object es ∧ ∀ e ∈ es, P e.2 := by
  fun_induction entries reader bound done s le with
  | case2 done => -- the closing brace
    cases hv
    exact objectOf_holds h
  | case5 done _ _ _ _ e read _ _ _ _ _ ih => -- a comma and an entry
    have holds : P e.value.2 := entry_holds reads (by rw [read, found_ok])
    exact ih (List.forall_mem_cons.mpr ⟨holds, h⟩) hv
  | _ => cases hv

theorem spelledNumber_holds (hv : found (spelledNumber s) = some (v, rest)) : ∃ literal, v = .number literal := by
  unfold spelledNumber at hv
  split at hv
  · obtain ⟨text, _, hv⟩ := found_bind_eq_some_iff.mp hv
    split at hv
    · cases hv
    · split at hv <;> cases hv
      exact ⟨_, rfl⟩
  · cases hv

/-- An object is read as such, or as a number if it is marked. -/
theorem object_holds (reads : Finds P reader) (hv : found (object reader s) = some (v, rest)) :
    (∃ es, v = .object es ∧ ∀ e ∈ es, P e.2) ∨ ∃ literal, v = .number literal := by
  unfold object at hv
  split at hv
  · cases hv
  · dsimp only at hv
    split at hv
    · cases hv
      exact .inl ⟨[], rfl, List.forall_mem_nil _⟩
    · split at hv
      · obtain ⟨key, _, hv⟩ := found_bind_eq_some_iff.mp hv
        obtain ⟨tail, _, hv⟩ := found_bind_eq_some_iff.mp hv
        split at hv
        · rw [found_widen] at hv
          exact .inr (spelledNumber_holds hv)
        · obtain ⟨w, read, hv⟩ := found_bind_eq_some_iff.mp hv
          have holds : P w.value := reads (by rw [read, found_ok])
          exact .inl (entries_holds reads (List.forall_mem_singleton.mpr holds) hv)
      · cases hv

theorem word_value {letters : List Char} {w : Value} (hv : found (word letters w s) = some (v, rest)) : v = w := by
  induction letters generalizing s with
  | nil => cases hv; rfl
  | cons l letters ih =>
    cases s with
    | nil => cases hv
    | cons c s =>
      rw [word_cons] at hv
      split at hv
      · exact ih hv
      · cases hv

/-! ## Values -/

/-- A value that is read is flat, and then read on any budget, or a container, and then read
    with what a reader on one less finds in it. -/
theorem value_opens {budget : Nat} (hv : found (value budget s) = some (v, rest)) :
    (v.nesting = 0 ∧ ∀ more, found (value more s) = some (v, rest)) ∨
      ∃ less r, budget = less + 1 ∧
        ((found (array (value less) r) = some (v, rest) ∧
            ∀ more, found (value (more + 1) s) = found (array (value more) r)) ∨
          (found (object (value less) r) = some (v, rest) ∧
            ∀ more, found (value (more + 1) s) = found (object (value more) r))) := by
  cases first : skipSpace s with
  | nil =>
    rw [value_nil first] at hv
    cases hv
  | cons c r =>
    have on := fun more => @value_cons more s r c first
    by_cases quote : c = '"'
    · simp only [if_pos quote] at on
      rw [on] at hv
      refine .inl ⟨?_, fun more => (on more).trans hv⟩
      obtain ⟨_, _, hv⟩ := Option.map_eq_some_iff.mp hv
      cases hv
      rfl
    simp only [if_neg quote] at on
    by_cases bracket : c = '['
    · simp only [if_pos bracket] at on
      rw [on] at hv
      cases budget with
      | zero => cases hv
      | succ less => exact .inr ⟨less, r, rfl, .inl ⟨hv, fun more => on (more + 1)⟩⟩
    simp only [if_neg bracket] at on
    by_cases brace : c = '\x7b'
    · simp only [if_pos brace] at on
      rw [on] at hv
      cases budget with
      | zero => cases hv
      | succ less => exact .inr ⟨less, r, rfl, .inr ⟨hv, fun more => on (more + 1)⟩⟩
    simp only [if_neg brace] at on
    -- what is left does not hang on the budget
    have same : ∀ more, found (value more s) = some (v, rest) := fun more => ((on more).trans (on budget).symm).trans hv
    rw [on] at hv
    refine .inl ⟨?_, same⟩
    split_ifs at hv
    · rw [word_value hv]
      rfl
    · rw [word_value hv]
      rfl
    · rw [word_value hv]
      rfl
    · obtain ⟨_, _, hv⟩ := Option.map_eq_some_iff.mp hv
      cases hv
      rfl

/-- A value nests at most as deep as the budget it was read on. -/
theorem found_nesting_le {budget : Nat} : Finds (·.nesting ≤ budget) (value budget) := by
  induction budget with
  | zero =>
    intro s rest v hv
    rcases value_opens hv with ⟨flat, -⟩ | ⟨less, _, budget, _⟩
    · exact Nat.le_of_eq flat
    · cases budget
  | succ budget ih =>
    intro s rest v hv
    rcases value_opens hv with ⟨flat, -⟩ | ⟨less, r, opened, container⟩
    · exact flat ▸ Nat.zero_le _
    · cases opened
      rcases container with ⟨hv, -⟩ | ⟨hv, -⟩
      · obtain ⟨items, rfl, shallow⟩ := array_holds ih hv
        exact Nat.succ_le_succ (itemsNesting_le_iff.mpr shallow)
      · rcases object_holds ih hv with ⟨es, rfl, shallow⟩ | ⟨literal, rfl⟩
        · exact Nat.succ_le_succ (entriesNesting_le_iff.mpr shallow)
        · exact Nat.zero_le _

/-! ## Readers that may go deeper -/

section

variable {deeper : Reader Value} {p : Value × List Char}

/-- What the one reader finds the other one finds too, and leaves the same behind it. -/
def Follows (deeper reader : Reader Value) : Prop := ∀ {s p}, found (reader s) = some p → found (deeper s) = some p

theorem elements_follows (follows : Follows deeper reader) {done : List Value} {s : List Char} {le : s.length ≤ bound}
    (h : found (elements reader bound done s le) = some p) : found (elements deeper bound done s le) = some p := by
  fun_induction elements reader bound done s le with
  | case2 done s le r closed =>
    rw [elements_close deeper done le closed]
    exact h
  | case6 done s le t d r hd open_ w read comma _ _ _ ih =>
    obtain ⟨_, goes⟩ := elements_comma deeper done le comma hd open_
    obtain ⟨_, next⟩ := goes w.value w.rest (follows (by rw [read, found_ok]))
    rw [next]
    exact ih h
  | _ => cases h

theorem array_follows (follows : Follows deeper reader) (h : found (array reader s) = some p) :
    found (array deeper s) = some p := by
  unfold array at h ⊢
  split at h
  · cases h
  · dsimp only at h ⊢
    split_ifs at h ⊢
    · exact h
    · split at h
      · cases h
      · rename_i w read
        obtain ⟨_, read'⟩ := found_eq_some_iff.mp (follows (p := (w.value, w.rest)) (by rw [read, found_ok]))
        rw [read']
        exact elements_follows follows h

theorem entry_follows (follows : Follows deeper reader) {q : (String × Value) × List Char}
    (h : found (entry reader s) = some q) : found (entry deeper s) = some q := by
  obtain ⟨key, named, h⟩ := found_bind_eq_some_iff.mp h
  obtain ⟨tail, separated, h⟩ := found_bind_eq_some_iff.mp h
  obtain ⟨w, read, h⟩ := found_bind_eq_some_iff.mp h
  obtain ⟨_, read'⟩ := found_eq_some_iff.mp (follows (p := (w.value, w.rest)) (by rw [read, found_ok]))
  exact found_bind_eq_some_iff.mpr ⟨key, named, found_bind_eq_some_iff.mpr ⟨tail, separated,
    found_bind_eq_some_iff.mpr ⟨_, read', h⟩⟩⟩

theorem entries_follows (follows : Follows deeper reader) {done : List (String × Value)} {s : List Char}
    {le : s.length ≤ bound} (h : found (entries reader bound done s le) = some p) :
    found (entries deeper bound done s le) = some p := by
  fun_induction entries reader bound done s le with
  | case2 done s le r closed =>
    rw [entries_close deeper done le closed]
    exact h
  | case5 done s le t r e read comma _ _ quote _ ih =>
    obtain ⟨_, goes⟩ := entries_comma deeper done le comma quote
    obtain ⟨_, next⟩ := goes e.value e.rest (entry_follows follows (by rw [read, found_ok]))
    rw [next]
    exact ih h
  | _ => cases h

theorem object_follows (follows : Follows deeper reader) (h : found (object reader s) = some p) :
    found (object deeper s) = some p := by
  unfold object at h ⊢
  split at h
  · cases h
  · dsimp only at h ⊢
    split_ifs at h ⊢
    · exact h
    · obtain ⟨key, named, h⟩ := found_bind_eq_some_iff.mp h
      obtain ⟨tail, separated, h⟩ := found_bind_eq_some_iff.mp h
      refine found_bind_eq_some_iff.mpr ⟨key, named, found_bind_eq_some_iff.mpr ⟨tail, separated, ?_⟩⟩
      split_ifs at h ⊢
      · exact h
      · obtain ⟨w, read, h⟩ := found_bind_eq_some_iff.mp h
        obtain ⟨_, read'⟩ := found_eq_some_iff.mp (follows (p := (w.value, w.rest)) (by rw [read, found_ok]))
        exact found_bind_eq_some_iff.mpr ⟨_, read', entries_follows follows h⟩
    · cases h

/-- On a greater budget a reader finds what it finds on a smaller one. -/
theorem value_follows {less more : Nat} (le : less ≤ more) : Follows (value more) (value less) := by
  induction more generalizing less with
  | zero => cases Nat.le_zero.mp le; exact id
  | succ more ih =>
    intro s p h
    rcases value_opens h with ⟨-, same⟩ | ⟨less, r, rfl, container⟩
    · exact same (more + 1)
    · have follows : Follows (value more) (value less) := ih (Nat.le_of_succ_le_succ le)
      rcases container with ⟨h, on⟩ | ⟨h, on⟩
      · rw [on]
        exact array_follows follows h
      · rw [on]
        exact object_follows follows h

end

end Document

/-! ## Documents -/

theorem found_of_ofText? {text : String} {v : Value} (h : Value.ofText? text = .ok v) :
    ∃ rest, found (Document.value maxNesting text.toList) = some (v, rest) := by
  unfold Value.ofText? Document.whole at h
  cases read : Document.value maxNesting text.toList with
  | error fault =>
    rw [read] at h
    cases h
  | ok w =>
    simp only [read, bind, Except.bind] at h
    split at h <;> cases h
    exact ⟨w.rest, found_ok w⟩

/-- A document nests at most `maxNesting` deep. -/
theorem ofText?_nesting_le {text : String} {v : Value} (h : Value.ofText? text = .ok v) : v.nesting ≤ maxNesting := by
  obtain ⟨rest, read⟩ := found_of_ofText? h
  exact Document.found_nesting_le read

/-- A text that starts with a deeper value, as readers with more budget tell, is no document. -/
theorem ofText?_error_of_deep {text : String} {v : Value} {budget : Nat} {rest : List Char}
    (read : found (Document.value budget text.toList) = some (v, rest)) (deep : maxNesting < v.nesting) :
    ∃ error, Value.ofText? text = .error error := by
  cases h : Value.ofText? text with
  | error error => exact ⟨error, rfl⟩
  | ok w =>
    -- the value that is no deeper is the one that the readers with more budget find too
    obtain ⟨rest', read'⟩ := found_of_ofText? h
    have more : maxNesting ≤ budget := Nat.le_of_lt (Nat.lt_of_lt_of_le deep (Document.found_nesting_le read))
    have same := Document.value_follows more read'
    rw [read] at same
    cases same
    exact absurd (Document.found_nesting_le read') (Nat.not_le.mpr deep)

end Decodables.Json
