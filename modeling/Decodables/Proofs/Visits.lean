/-
  Decodables.Proofs.Visits — where a sample goes in a document, and in which order.

  A sample goes from an object to the value of each of its entries, and from an array to
  the first element. It comes to each value before it comes to what that value holds, and
  it is done with an entry before it turns to the next. What stands behind the first
  element of an array is never visited.

  Proved, over every value:
  - `mem_visits_iff`: what is visited is what such steps lead to, each at the place where
    they lead.
  - `visits_below`: what is visited below a visited value follows it at once.
  - `visits_distinct`: with distinct keys no place is visited twice.
-/

import Mathlib.Data.List.Nodup
import Decodables.Path
import Decodables.Proofs.Json.ValueTree

namespace Decodables

open Json (Value)

/-! ## Steps from a path -/

namespace Path

def follow (p : Path) (steps : List Step) : Path := { p with steps := p.steps ++ steps }

@[simp] theorem follow_nil (p : Path) : p.follow [] = p := by simp [follow]

theorem key_follow (p : Path) (k : String) (steps : List Step) :
    (p.key k).follow steps = p.follow (.key k :: steps) := by
  simp [follow, key]

theorem index_follow (p : Path) (i : Nat) (steps : List Step) :
    (p.index i).follow steps = p.follow (.index i :: steps) := by
  simp [follow, index]

theorem depth_follow (p : Path) (steps : List Step) : (p.follow steps).depth = p.depth + steps.length := by
  simp [follow, depth]

theorem depth_top : top.depth = 0 := rfl

theorem depth_key (p : Path) (k : String) : (p.key k).depth = p.depth + 1 := by simp [depth, key]

theorem depth_index (p : Path) (i : Nat) : (p.index i).depth = p.depth + 1 := by simp [depth, index]

theorem follow_inj (p : Path) {s t : List Step} : p.follow s = p.follow t ↔ s = t := by
  simp [follow]

theorem follow_cons_ne (p : Path) (step : Step) (steps : List Step) : p.follow (step :: steps) ≠ p := by
  intro same
  have depths := p.depth_follow (step :: steps)
  rw [same, List.length_cons] at depths
  omega

end Path

/-! ## Visits -/

structure Visit where
  path : Path
  value : Value

namespace Json

mutual

def Value.visits (path : Path) : Value → List Visit
  | .array [] => [⟨path, .array []⟩]
  | .array (first :: rest) => ⟨path, .array (first :: rest)⟩ :: first.visits (path.index 0)
  | .object entries => ⟨path, .object entries⟩ :: entryVisits path entries
  | .null => [⟨path, .null⟩]
  | .bool b => [⟨path, .bool b⟩]
  | .number literal => [⟨path, .number literal⟩]
  | .string s => [⟨path, .string s⟩]

def entryVisits (path : Path) : List (String × Value) → List Visit
  | [] => []
  | (key, value) :: rest => value.visits (path.key key) ++ entryVisits path rest

end

theorem entryVisits_eq (path : Path) (entries : List (String × Value)) :
    entryVisits path entries = entries.flatMap fun e => e.2.visits (path.key e.1) := by
  induction entries with
  | nil => rfl
  | cons e rest ih => rw [entryVisits, ih, List.flatMap_cons]

/-- The steps lead from the first value to the second, through entries and first elements. -/
inductive Reaches : Value → List Step → Value → Prop
  | here (v : Value) : Reaches v [] v
  | first {first w : Value} {rest : List Value} {steps : List Step} :
    Reaches first steps w → Reaches (.array (first :: rest)) (.index 0 :: steps) w
  | entry {key : String} {v w : Value} {entries : List (String × Value)} {steps : List Step} :
    (key, v) ∈ entries → Reaches v steps w → Reaches (.object entries) (.key key :: steps) w

/-- What is visited below a value that is reached follows it at once. -/
theorem visits_below {v w : Value} {steps : List Step} (h : Reaches v steps w) :
    ∀ path, ∃ before after, v.visits path = before ++ w.visits (path.follow steps) ++ after := by
  induction h with
  | here v =>
    intro path
    exact ⟨[], [], by simp⟩
  | @first first _ rest _ _ ih =>
    intro path
    obtain ⟨before, after, parts⟩ := ih (path.index 0)
    refine ⟨⟨path, .array (first :: rest)⟩ :: before, after, ?_⟩
    rw [Value.visits, parts, Path.index_follow, List.cons_append, List.cons_append]
  | @entry key v _ entries _ he _ ih =>
    intro path
    obtain ⟨earlier, later, rfl⟩ := List.append_of_mem he
    obtain ⟨before, after, parts⟩ := ih (path.key key)
    refine ⟨⟨path, .object (earlier ++ (key, v) :: later)⟩ :: (entryVisits path earlier ++ before),
      after ++ entryVisits path later, ?_⟩
    simp only [Value.visits, entryVisits_eq, List.flatMap_append, List.flatMap_cons, parts, Path.key_follow,
      List.cons_append, List.append_assoc]

theorem Value.visits_head (path : Path) (v : Value) : ∃ others, v.visits path = ⟨path, v⟩ :: others := by
  match v with
  | .null | .bool _ | .number _ | .string _ | .array [] | .array (_ :: _) | .object _ => exact ⟨_, by rw [visits]⟩

theorem reaches_of_mem_visits {v : Value} :
    ∀ {path : Path} {c : Visit}, c ∈ v.visits path → ∃ steps, Reaches v steps c.value ∧ c.path = path.follow steps := by
  induction v using Value.induction with
  | step v ih =>
    intro path c hc
    have here : c = ⟨path, v⟩ → ∃ steps, Reaches v steps c.value ∧ c.path = path.follow steps := by
      rintro rfl
      exact ⟨[], .here v, (Path.follow_nil path).symm⟩
    match v, ih with
    | .null, _ | .bool _, _ | .number _, _ | .string _, _ | .array [], _ =>
      rw [Value.visits] at hc
      exact here (List.mem_singleton.mp hc)
    | .array (first :: rest), ih =>
      rw [Value.visits] at hc
      rcases List.mem_cons.mp hc with first_visit | hc
      · exact here first_visit
      · obtain ⟨steps, reaches, place⟩ := ih first (List.mem_cons_self ..) hc
        exact ⟨.index 0 :: steps, .first reaches, place.trans (Path.index_follow ..)⟩
    | .object entries, ih =>
      rw [Value.visits, entryVisits_eq] at hc
      rcases List.mem_cons.mp hc with first_visit | hc
      · exact here first_visit
      · obtain ⟨e, he, hc⟩ := List.mem_flatMap.mp hc
        obtain ⟨steps, reaches, place⟩ := ih e.2 (List.mem_map_of_mem he) hc
        exact ⟨.key e.1 :: steps, .entry he reaches, place.trans (Path.key_follow ..)⟩

/-- Visited is what steps through entries and first elements lead to, where they lead. -/
theorem mem_visits_iff {v : Value} {path : Path} {c : Visit} :
    c ∈ v.visits path ↔ ∃ steps, Reaches v steps c.value ∧ c.path = path.follow steps := by
  refine ⟨reaches_of_mem_visits, fun ⟨steps, reaches, place⟩ => ?_⟩
  obtain ⟨before, after, parts⟩ := visits_below reaches path
  obtain ⟨others, head⟩ := c.value.visits_head (path.follow steps)
  rw [parts, head, ← place]
  simp

/-- What is visited from one step further on has its path through that step. -/
theorem path_of_mem_visits {w : Value} {path : Path} {c : Visit} (step : Step)
    (h : c ∈ w.visits (path.follow [step])) : ∃ steps, c.path = path.follow (step :: steps) := by
  obtain ⟨steps, -, place⟩ := reaches_of_mem_visits h
  exact ⟨steps, by simp [place, Path.follow]⟩

/-- With distinct keys no place is visited twice. -/
theorem visits_distinct {v : Value} :
    v.keysDistinct → ∀ path, ((v.visits path).map (·.path)).Nodup := by
  induction v using Value.induction with
  | step v ih =>
    intro distinct path
    match v, ih with
    | .null, _ | .bool _, _ | .number _, _ | .string _, _ | .array [], _ =>
      rw [Value.visits]
      exact List.nodup_singleton _
    | .array (first :: rest), ih =>
      have inner := keysDistinct_array_iff.mp distinct first (List.mem_cons_self ..)
      rw [Value.visits, List.map_cons, List.nodup_cons]
      refine ⟨fun again => ?_, ih first (List.mem_cons_self ..) inner _⟩
      obtain ⟨c, hc, same⟩ := List.mem_map.mp again
      obtain ⟨steps, further⟩ := path_of_mem_visits (.index 0) hc
      exact path.follow_cons_ne _ _ (further.symm.trans same)
    | .object entries, ih =>
      obtain ⟨keys, inner⟩ := keysDistinct_object_iff.mp distinct
      rw [Value.visits, entryVisits_eq, List.map_cons, List.nodup_cons, List.map_flatMap, List.nodup_flatMap]
      refine ⟨fun again => ?_, fun e he => ih e.2 (List.mem_map_of_mem he) (inner e he) _, ?_⟩
      · obtain ⟨e, -, hc⟩ := List.mem_flatMap.mp again
        obtain ⟨c, hc, same⟩ := List.mem_map.mp hc
        obtain ⟨steps, further⟩ := path_of_mem_visits (.key e.1) hc
        exact path.follow_cons_ne _ _ (further.symm.trans same)
      · -- places in the values of two entries part at the keys
        refine (List.pairwise_map.mp keys).imp fun {e f} differ => ?_
        intro place he hf
        obtain ⟨c, hc, rfl⟩ := List.mem_map.mp he
        obtain ⟨d, hd, same⟩ := List.mem_map.mp hf
        obtain ⟨steps, through⟩ := path_of_mem_visits (.key e.1) hc
        obtain ⟨others, through'⟩ := path_of_mem_visits (.key f.1) hd
        rw [through, through', Path.follow_inj, List.cons.injEq, Step.key.injEq] at same
        exact differ same.1.symm

end Json

end Decodables
