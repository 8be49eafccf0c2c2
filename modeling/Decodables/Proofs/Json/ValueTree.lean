/-
  Decodables.Proofs.Json.ValueTree — values as trees.

  A container holds values, and a scalar holds none. What is said of every value in a
  value is said of it and of what it holds.

  Proved, over every value:
  - `Value.induction`: what a value has if those it holds have it, every value has.
  - `itemsNesting_le_iff`, `entriesNesting_le_iff`: a container nests one deeper than what
    it holds.
  - `all_array_iff`, `all_object_iff`, `keysDistinct_array_iff`, `keysDistinct_object_iff`:
    what holds of every value in a container.
-/

import Decodables.Json.Value

namespace Decodables.Json

/-! ## What values hold -/

def Value.children : Value → List Value
  | .array items => items
  | .object entries => entries.map (·.2)
  | _ => []

mutual

/-- What a value has if those it holds have it, every value has. -/
theorem Value.induction {P : Value → Prop} (step : ∀ v : Value, (∀ w ∈ v.children, P w) → P v) : (v : Value) → P v
  | .null | .bool _ | .number _ | .string _ => step _ nofun
  | .array items => step (.array items) (items_induction step items)
  | .object entries => step (.object entries) (List.forall_mem_map.mpr (entries_induction step entries))

theorem items_induction {P : Value → Prop} (step : ∀ v : Value, (∀ w ∈ v.children, P w) → P v) :
    (items : List Value) → ∀ v ∈ items, P v
  | [] => nofun
  | first :: rest => List.forall_mem_cons.mpr ⟨Value.induction step first, items_induction step rest⟩

theorem entries_induction {P : Value → Prop} (step : ∀ v : Value, (∀ w ∈ v.children, P w) → P v) :
    (entries : List (String × Value)) → ∀ e ∈ entries, P e.2
  | [] => nofun
  | (_, first) :: rest => List.forall_mem_cons.mpr ⟨Value.induction step first, entries_induction step rest⟩

end

/-! ## Nesting -/

mutual

/-- How many containers of the value stand inside one another. -/
def Value.nesting : Value → Nat
  | .array items => itemsNesting items + 1
  | .object entries => entriesNesting entries + 1
  | _ => 0

def itemsNesting : List Value → Nat
  | [] => 0
  | v :: rest => max v.nesting (itemsNesting rest)

def entriesNesting : List (String × Value) → Nat
  | [] => 0
  | (_, v) :: rest => max v.nesting (entriesNesting rest)

end

theorem itemsNesting_le_iff {items : List Value} {n : Nat} : itemsNesting items ≤ n ↔ ∀ v ∈ items, v.nesting ≤ n := by
  induction items with
  | nil => simp [itemsNesting]
  | cons v rest ih => rw [itemsNesting, Nat.max_le, ih, List.forall_mem_cons]

theorem entriesNesting_le_iff {entries : List (String × Value)} {n : Nat} :
    entriesNesting entries ≤ n ↔ ∀ e ∈ entries, e.2.nesting ≤ n := by
  induction entries with
  | nil => simp [entriesNesting]
  | cons e rest ih => rw [entriesNesting, Nat.max_le, ih, List.forall_mem_cons]

/-! ## Checks of every value -/

mutual

def Value.all (check : Value → Bool) : Value → Bool
  | .array items => check (.array items) && itemsAll check items
  | .object entries => check (.object entries) && entriesAll check entries
  | v => check v

def itemsAll (check : Value → Bool) : List Value → Bool
  | [] => true
  | v :: rest => v.all check && itemsAll check rest

def entriesAll (check : Value → Bool) : List (String × Value) → Bool
  | [] => true
  | (_, v) :: rest => v.all check && entriesAll check rest

end

variable {check : Value → Bool}

theorem all_array_iff {items : List Value} :
    (Value.array items).all check ↔ check (.array items) ∧ ∀ v ∈ items, v.all check := by
  have each : itemsAll check items ↔ ∀ v ∈ items, v.all check := by
    induction items with
    | nil => simp [itemsAll]
    | cons v rest ih => rw [itemsAll, Bool.and_eq_true, ih, List.forall_mem_cons]
  rw [Value.all, Bool.and_eq_true, each]

theorem all_object_iff {entries : List (String × Value)} :
    (Value.object entries).all check ↔ check (.object entries) ∧ ∀ e ∈ entries, e.2.all check := by
  have each : entriesAll check entries ↔ ∀ e ∈ entries, e.2.all check := by
    induction entries with
    | nil => simp [entriesAll]
    | cons e rest ih => rw [entriesAll, Bool.and_eq_true, ih, List.forall_mem_cons]
  rw [Value.all, Bool.and_eq_true, each]

/-! ## Distinct keys -/

theorem keysDistinct_array_iff {items : List Value} :
    (Value.array items).keysDistinct ↔ ∀ v ∈ items, v.keysDistinct := by
  rw [Value.keysDistinct]
  induction items with
  | nil => simp [itemKeysDistinct]
  | cons v rest ih => rw [itemKeysDistinct, Bool.and_eq_true, ih, List.forall_mem_cons]

theorem entryKeysDistinct_iff {entries : List (String × Value)} :
    entryKeysDistinct entries ↔ ∀ e ∈ entries, e.2.keysDistinct := by
  induction entries with
  | nil => simp [entryKeysDistinct]
  | cons e rest ih => rw [entryKeysDistinct, Bool.and_eq_true, ih, List.forall_mem_cons]

theorem keysDistinct_object_iff {entries : List (String × Value)} :
    (Value.object entries).keysDistinct ↔ (entries.map (·.1)).Nodup ∧ ∀ e ∈ entries, e.2.keysDistinct := by
  rw [Value.keysDistinct, Bool.and_eq_true, decide_eq_true_eq, entryKeysDistinct_iff]

end Decodables.Json
