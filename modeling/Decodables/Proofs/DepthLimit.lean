/-
  Decodables.Proofs.DepthLimit — which documents are too deep for a sample.

  Two guards look at how deep a document is, and they count differently. A reader refuses
  to open more than `maxNesting` containers inside one another, wherever they stand. A
  sample takes the document to stand at 0 and each container at one more than what holds
  it, and goes only where members and first elements lead.

  So what a sample goes through is the document cut to first elements, and a limit allows
  one container more than it says. Documents come no deeper than `maxNesting`, so limits
  from `maxNesting - 1` on are never met.

  Proved, over every document, name and limit:
  - `nothingBeyond_iff`: what a limit allows below a path.
  - `ofSample_ok_iff`, `ofDocument_tooDeep_iff`: a document is too deep just if it is, cut to
    first elements.
  - `tooDeep_iff_limit_lt`: some text is too deep for a limit just if it is below 126; what
    would be too deep for another limit is no document.
-/

import Decodables.Conversion
import Decodables.Proofs.Acceptance
import Decodables.Proofs.DepthFailure
import Decodables.Proofs.Json.DocumentReading
import Decodables.Proofs.Json.Nesting

namespace Decodables

open Json (Value maxNesting entryVisits entryVisits_eq)

def Report.Succeeds {α : Type} (r : Report α) : Prop := ∃ a, r.outcome = .ok a

theorem Report.succeeds_iff {α : Type} {r : Report α} : r.Succeeds ↔ r.failure? = none := by
  unfold Succeeds failure?
  cases r.outcome <;> simp

/-! ## Nesting of what is visited -/

namespace Json

theorem cut_nesting_array (first : Value) (rest : List Value) :
    (Value.array (first :: rest)).cut.nesting = first.cut.nesting + 1 := by
  simp [Value.cut, Value.nesting, itemsNesting]

theorem cut_nesting_object {es : List (String × Value)} {m n : Nat} :
    (Value.object es).cut.nesting + m ≤ n + 1 ↔ m ≤ n ∧ ∀ e ∈ es, e.2.cut.nesting + m ≤ n := by
  rw [Value.cut, cutEntries_eq, Value.nesting]
  by_cases h : m ≤ n
  · have room : entriesNesting (es.map fun e => (e.1, e.2.cut)) + 1 + m ≤ n + 1 ↔
        entriesNesting (es.map fun e => (e.1, e.2.cut)) ≤ n - m := by omega
    rw [room, entriesNesting_le_iff, List.forall_mem_map, and_iff_right h]
    refine forall₂_congr fun e _ => ?_
    show e.2.cut.nesting ≤ n - m ↔ _
    omega
  · exact iff_of_false (by omega) fun both => h both.1

/-- Cutting makes nothing deeper. -/
theorem cut_nesting_le (v : Value) : v.cut.nesting ≤ v.nesting := by
  induction v using Value.induction with
  | step v ih =>
    match v, ih with
    | .null, _ | .bool _, _ | .number _, _ | .string _, _ | .array [], _ => exact Nat.le_refl _
    | .array (first :: rest), ih =>
      rw [cut_nesting_array]
      exact Nat.succ_le_succ (Nat.le_trans (ih first (List.mem_cons_self ..)) (Nat.le_max_left ..))
    | .object es, ih =>
      refine cut_nesting_object.mpr ⟨Nat.zero_le _, fun e he => ?_⟩
      exact Nat.le_trans (ih e.2 (List.mem_map_of_mem he)) (entriesNesting_le_iff.mp (Nat.le_refl _) e he)

end Json

/-! ## What a limit allows -/

variable {limit : Nat}

theorem nothingBeyond_entries_iff {path : Path} {es : List (String × Value)} :
    firstBeyond limit (entryVisits path es) = none ↔
      ∀ e ∈ es, firstBeyond limit (e.2.visits (path.key e.1)) = none := by
  simp only [firstBeyond_eq_none_iff, entryVisits_eq, List.mem_flatMap]
  exact ⟨fun h e he c hc => h c ⟨e, he, hc⟩, fun h c ⟨e, he, hc⟩ => h e he c hc⟩

theorem nothingBeyond_container_iff {path : Path} {v : Value} (container : v.isContainer) {others : List Visit} :
    firstBeyond limit (⟨path, v⟩ :: others) = none ↔ path.depth ≤ limit ∧ firstBeyond limit others = none := by
  simp only [firstBeyond_eq_none_iff, List.forall_mem_cons, container, true_imp_iff]

/-- Of a container, one step more is allowed than of what it holds. -/
theorem nothingBeyond_iff {v : Value} : ∀ {path : Path}, path.depth ≤ limit + 1 →
    (firstBeyond limit (v.visits path) = none ↔ v.cut.nesting + path.depth ≤ limit + 1) := by
  induction v using Value.induction with
  | step v ih =>
    intro path above
    match v, ih with
    | .null, _ | .bool _, _ | .number _, _ | .string _, _ =>
      rw [Value.visits]
      exact iff_of_true (firstBeyond_scalar rfl) (by simpa [Value.cut, Value.nesting] using above)
    | .array [], _ =>
      have inside : firstBeyond limit [] = none := rfl
      rw [Value.visits, nothingBeyond_container_iff rfl, and_iff_left inside]
      simp only [Value.cut, Value.nesting, Json.itemsNesting]
      omega
    | .array (first :: rest), ih =>
      rw [Value.visits, nothingBeyond_container_iff rfl, Json.cut_nesting_array]
      have element : path.depth ≤ limit →
          (firstBeyond limit (first.visits (path.index 0)) = none ↔ first.cut.nesting + path.depth ≤ limit) := by
        intro allowed
        have inside : (path.index 0).depth ≤ limit + 1 := by rw [Path.depth_index]; omega
        rw [ih first (List.mem_cons_self ..) inside, Path.depth_index]
        omega
      rw [and_congr_right element]
      omega
    | .object es, ih =>
      rw [Value.visits, nothingBeyond_container_iff rfl, nothingBeyond_entries_iff, Json.cut_nesting_object]
      refine and_congr_right fun allowed => forall₂_congr fun e he => ?_
      have inside : (path.key e.1).depth ≤ limit + 1 := by rw [Path.depth_key]; omega
      rw [ih e.2 (List.mem_map_of_mem he) inside, Path.depth_key]
      omega

/-- The document stands at 0, so a limit allows one container more than it says. -/
theorem ofSample_ok_iff (name : String) {es : List (String × Value)} :
    (Declaration.ofSample limit name es).Succeeds ↔ (Value.object es).cut.nesting ≤ limit + 1 := by
  rw [Report.succeeds_iff, ofSample_failure, nothingBeyond_iff (Nat.zero_le _)]
  exact .rfl

/-! ## Documents that are too deep -/

namespace Conversion

theorem ofDocument_tooDeep_iff {name : String} {v : Value} :
    (∃ error, ofDocument ⟨name, limit⟩ v = .error (.tooDeep error)) ↔
      v.kind = .object ∧ limit + 1 < v.cut.nesting := by
  cases v with
  | object es =>
    rw [← Nat.not_le, ← ofSample_ok_iff name, ofDocument]
    cases h : (Declaration.ofSample limit name es).outcome with
    | ok d => simp [Report.Succeeds, h, Value.kind]
    | error error => simp [Report.Succeeds, h, Value.kind]
  | _ => simp [ofDocument, Value.kind]

/-- A text that starts with a document which is too deep for a sample, although the limit is
    no less than 126, is too deep for a reader. -/
theorem ofText_notJson_of_deep {name : String} {text : String} {v : Value} {budget : Nat} {rest : List Char}
    (enough : maxNesting - 1 ≤ limit)
    (read : Json.found (Json.Document.value budget text.toList) = some (v, rest))
    (deep : ∃ error, ofDocument ⟨name, limit⟩ v = .error (.tooDeep error)) :
    ∃ error, ofText ⟨name, limit⟩ text = .error (.notJson error) := by
  obtain ⟨-, deeper⟩ := ofDocument_tooDeep_iff.mp deep
  have nested : maxNesting < v.nesting := by
    have le := Json.cut_nesting_le v
    simp only [maxNesting] at enough ⊢
    omega
  obtain ⟨error, refused⟩ := Json.ofText?_error_of_deep read nested
  exact ⟨error, by rw [ofText, refused]⟩

/-! ## Towers -/

def brackets : Nat → Value
  | 0 => .null
  | n + 1 => .array [brackets n]

def tower (n : Nat) : Value := .object [("", brackets n)]

theorem brackets_nesting (n : Nat) : (brackets n).cut.nesting = n ∧ (brackets n).nesting = n := by
  induction n with
  | zero => exact ⟨rfl, rfl⟩
  | succ n ih =>
    rw [brackets, Json.cut_nesting_array, ih.1]
    exact ⟨rfl, by simp [Value.nesting, Json.itemsNesting, ih.2]⟩

theorem brackets_all {check : Value → Bool} (null : check .null) (array : ∀ items, check (.array items)) (n : Nat) :
    (brackets n).all check := by
  induction n with
  | zero => exact null
  | succ n ih => exact Json.all_array_iff.mpr ⟨array _, List.forall_mem_singleton.mpr ih⟩

theorem brackets_keysDistinct (n : Nat) : (brackets n).keysDistinct := by
  induction n with
  | zero => rfl
  | succ n ih => exact Json.keysDistinct_array_iff.mpr (List.forall_mem_singleton.mpr ih)

theorem tower_all {check : Value → Bool} (null : check .null) (array : ∀ items, check (.array items))
    (object : ∀ v, check (.object [("", v)])) (n : Nat) : (tower n).all check :=
  Json.all_object_iff.mpr ⟨object _, List.forall_mem_singleton.mpr (brackets_all null array n)⟩

theorem tower_spelled (n : Nat) : (tower n).numeralsOnly := tower_all rfl (fun _ => rfl) (fun _ => rfl) n

theorem tower_unmarked (n : Nat) : (tower n).unmarked :=
  tower_all rfl (fun _ => rfl) (fun _ => by simp [Value.isUnmarked, Json.isMarked, Json.numberMarker]) n

theorem tower_keysDistinct (n : Nat) : (tower n).keysDistinct :=
  Json.keysDistinct_object_iff.mpr
    ⟨List.nodup_singleton _, List.forall_mem_singleton.mpr (brackets_keysDistinct n)⟩

theorem tower_nesting (n : Nat) : (tower n).cut.nesting = n + 1 ∧ (tower n).nesting = n + 1 := by
  obtain ⟨cut, whole⟩ := brackets_nesting n
  exact ⟨by simp [tower, Value.cut, Json.cutEntries, Value.nesting, Json.entriesNesting, cut],
    by simp [tower, Value.nesting, Json.entriesNesting, whole]⟩

/-- A tower comes back as long as the reader may open all of its containers. -/
theorem tower_reread {n budget : Nat} (h : n + 1 ≤ budget) : (tower n).reread budget = some (tower n) :=
  Json.reread_eq_self_iff.mpr ⟨tower_unmarked n, (tower_nesting n).2 ▸ h⟩

theorem tower_found (n : Nat) :
    Json.found (Json.Document.value (n + 1) (tower n).compact.toList) = some (tower n, []) := by
  have ends : Json.Numeral.Ends [] := fun c hc => by cases hc
  have read := Json.Document.found_value .tight (tower_spelled n) (tower_keysDistinct n) 0 (n + 1) [] []
    (List.forall_mem_nil _) ends
  rw [tower_reread (Nat.le_refl _), List.nil_append, List.append_nil] at read
  rw [Value.compact, String.toList_ofList, read]
  rfl

theorem tower_tooDeep {n : Nat} (h : limit < n) (name : String) :
    ∃ error, ofDocument ⟨name, limit⟩ (tower n) = .error (.tooDeep error) := by
  rw [ofDocument_tooDeep_iff, (tower_nesting n).1]
  exact ⟨rfl, by omega⟩

/-! ## Limits that can be met -/

/-- A text is too deep for some limit just if the limit is below 126. For a limit that is
    not, a text of a document that would be too deep, as a reader with more budget tells, is
    no document to begin with. -/
theorem tooDeep_iff_limit_lt (name : String) (limit : Nat) :
    ((∃ text error, ofText ⟨name, limit⟩ text = .error (.tooDeep error)) ↔ limit < 126) ∧
      ∀ text budget v rest, 126 ≤ limit → Json.found (Json.Document.value budget text.toList) = some (v, rest) →
        (∃ error, ofDocument ⟨name, limit⟩ v = .error (.tooDeep error)) →
          ∃ error, ofText ⟨name, limit⟩ text = .error (.notJson error) := by
  refine ⟨⟨?_, fun below => ?_⟩, fun text budget v rest enough read deep => ofText_notJson_of_deep enough read deep⟩
  · rintro ⟨text, error, h⟩
    rw [ofText] at h
    split at h
    · rename_i v read
      obtain ⟨-, deeper⟩ := ofDocument_tooDeep_iff.mp ⟨error, h⟩
      have shallow := Json.ofText?_nesting_le read
      have le := Json.cut_nesting_le v
      simp only [maxNesting] at shallow
      omega
    · cases h
  · obtain ⟨error, deep⟩ := tower_tooDeep (Nat.lt_succ_self limit) name
    have back : (tower (limit + 1)).reread maxNesting = some (tower (limit + 1)) :=
      tower_reread (by rw [maxNesting]; omega)
    have read := (Json.ofText?_compact (tower_spelled _) (tower_keysDistinct _)).1 _ back
    exact ⟨_, error, by rw [ofText, read]; exact deep⟩

/-- The least of the limits that are never met refuses a tower of 128 containers, but the
    tower's text is no document. -/
theorem tower_unread :
    Json.found (Json.Document.value 128 (tower 127).compact.toList) = some (tower 127, []) ∧
      (∃ error, ofDocument ⟨"Tower", 126⟩ (tower 127) = .error (.tooDeep error)) ∧
      ∃ error, ofText ⟨"Tower", 126⟩ (tower 127).compact = .error (.notJson error) := by
  have deep : ∃ error, ofDocument ⟨"Tower", 126⟩ (tower 127) = .error (.tooDeep error) :=
    tower_tooDeep (by decide) "Tower"
  have found : Json.found (Json.Document.value 128 (tower 127).compact.toList) = some (tower 127, []) := tower_found 127
  have unread := (tooDeep_iff_limit_lt "Tower" 126).2 _ 128 _ [] (Nat.le_refl 126) found deep
  exact ⟨found, deep, unread⟩

end Conversion

end Decodables
