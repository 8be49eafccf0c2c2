/-
  Decodables.Proofs.Json.Rereading — what comes back of a value when its text is read.

  The text of a value gives the value back, but for two things. Containers may stand
  inside one another only so deep. And an object whose first key is the marker of numbers
  is none to a reader: it is a number if it holds a numeral as a string and nothing else,
  and a fault otherwise.

  Proved, over every value:
  - `markedNumber?_eq_some`: what a marked object is that spells a number.
  - `reread_eq_self_iff`: the value itself comes back just if no object in it is marked and
    it is not nested too deep.
-/

import Decodables.Json.Document
import Decodables.Proofs.Json.NumeralReading
import Decodables.Proofs.Json.ValueTree

namespace Decodables.Json

/-! ## What comes back -/

/-- Whether the entries are those of an object that is taken for a number. -/
def isMarked (entries : List (String × Value)) : Bool := entries.head?.any (·.1 == numberMarker)

def markedNumber? : List (String × Value) → Option Value
  | [(_, .string s)] => if Numeral.IsNumeral s.toList then some (.number s) else none
  | _ => none

mutual

/-- What a reader that may open `budget` containers inside one another makes of the text of
    a value. -/
def Value.reread (budget : Nat) : Value → Option Value
  | .array items =>
    match budget with
    | 0 => none
    | budget + 1 => (rereadItems budget items).map .array
  | .object entries =>
    match budget with
    | 0 => none
    | budget + 1 => if isMarked entries then markedNumber? entries else (rereadEntries budget entries).map .object
  | v => some v

def rereadItems (budget : Nat) : List Value → Option (List Value)
  | [] => some []
  | v :: rest => (v.reread budget).bind fun w => (rereadItems budget rest).map (w :: ·)

def rereadEntries (budget : Nat) : List (String × Value) → Option (List (String × Value))
  | [] => some []
  | (key, v) :: rest => (v.reread budget).bind fun w => (rereadEntries budget rest).map ((key, w) :: ·)

end

/-! ## What comes back unchanged -/

def Value.isUnmarked : Value → Bool
  | .object entries => !isMarked entries
  | _ => true

def Value.unmarked (v : Value) : Bool := v.all Value.isUnmarked

theorem rereadItems_eq_self_iff {budget : Nat} {items : List Value} :
    rereadItems budget items = some items ↔ ∀ v ∈ items, v.reread budget = some v := by
  induction items with
  | nil => simp [rereadItems]
  | cons v items ih =>
    rw [List.forall_mem_cons, ← ih]
    simp [rereadItems, Option.bind_eq_some_iff]

theorem rereadEntries_eq_self_iff {budget : Nat} {es : List (String × Value)} :
    rereadEntries budget es = some es ↔ ∀ e ∈ es, e.2.reread budget = some e.2 := by
  induction es with
  | nil => simp [rereadEntries]
  | cons e es ih =>
    obtain ⟨key, v⟩ := e
    rw [List.forall_mem_cons, ← ih]
    simp [rereadEntries, Option.bind_eq_some_iff]

theorem markedNumber?_eq_some {es : List (String × Value)} {v : Value} (h : markedNumber? es = some v) :
    ∃ key s, es = [(key, .string s)] ∧ Numeral.IsNumeral s.toList ∧ v = .number s := by
  unfold markedNumber? at h
  split at h
  · rename_i key s
    split at h
    · rename_i numeral
      cases h
      exact ⟨key, s, rfl, numeral, rfl⟩
    · cases h
  · cases h

/-- A value comes back just if no object in it is marked and it is not nested too deep. -/
theorem reread_eq_self_iff {v : Value} :
    ∀ {budget : Nat}, v.reread budget = some v ↔ v.unmarked ∧ v.nesting ≤ budget := by
  induction v using Value.induction with
  | step v ih =>
    intro budget
    match v, ih with
    | .null, _ | .bool _, _ | .number _, _ | .string _, _ =>
      simp [Value.reread, Value.unmarked, Value.all, Value.isUnmarked, Value.nesting]
    | .array items, ih =>
      rw [Value.unmarked, all_array_iff, Value.nesting]
      cases budget with
      | zero => simp [Value.reread]
      | succ budget =>
        rw [Nat.add_le_add_iff_right, itemsNesting_le_iff]
        have back : (Value.array items).reread (budget + 1) = some (.array items) ↔
            rereadItems budget items = some items := by simp [Value.reread]
        rw [back, rereadItems_eq_self_iff]
        constructor
        · intro h
          exact ⟨⟨rfl, fun v hv => ((ih v hv).mp (h v hv)).1⟩, fun v hv => ((ih v hv).mp (h v hv)).2⟩
        · rintro ⟨⟨-, unmarked⟩, shallow⟩ v hv
          exact (ih v hv).mpr ⟨unmarked v hv, shallow v hv⟩
    | .object es, ih =>
      rw [Value.unmarked, all_object_iff, Value.nesting]
      cases budget with
      | zero => simp [Value.reread]
      | succ budget =>
        rw [Nat.add_le_add_iff_right, entriesNesting_le_iff]
        have ih' : ∀ e ∈ es, ∀ {budget}, e.2.reread budget = some e.2 ↔ e.2.unmarked ∧ e.2.nesting ≤ budget :=
          fun e he => ih e.2 (List.mem_map_of_mem he)
        by_cases marked : isMarked es
        · refine iff_of_false (fun h => ?_) fun h => by simp [Value.isUnmarked, marked] at h
          rw [Value.reread, if_pos marked] at h
          obtain ⟨_, _, _, _, object⟩ := markedNumber?_eq_some h
          cases object
        · have back : (Value.object es).reread (budget + 1) = some (.object es) ↔
              rereadEntries budget es = some es := by simp [Value.reread, marked]
          rw [back, rereadEntries_eq_self_iff]
          constructor
          · intro h
            exact ⟨⟨by simpa [Value.isUnmarked] using marked, fun e he => ((ih' e he).mp (h e he)).1⟩,
              fun e he => ((ih' e he).mp (h e he)).2⟩
          · rintro ⟨⟨-, unmarked⟩, shallow⟩ e he
            exact (ih' e he).mpr ⟨unmarked e he, shallow e he⟩

end Decodables.Json
