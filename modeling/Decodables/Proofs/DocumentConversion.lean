/-
  Decodables.Proofs.DocumentConversion — what becomes of a document, whatever its keys and
  strings.

  The text of a value is converted just as what comes back of the value is. No string and
  no key gets in the way of that, however it must be escaped, with one exception: an object
  whose first key is the marker of numbers does not come back as an object. As a document
  it is refused, with a spelled number in it for its kind and else for its text. Where no
  object is marked, a document becomes a tree that stands for every object visited.

  Proved, over every value that nests at most as deep as a reader goes, and every settings
  that allow that depth:
  - `visited_standsFor`: of every object that is visited some declaration is the sample.
  - `compact_converted`: the text of the value is read as the value just if no object in it
    is marked, and converted as what it is read as. An object without marks is converted to
    a tree with its keys, and any other value without marks refused for its kind.
  - `marked_is_refused`: a document that only its key turns into a number.
-/

import Decodables.Proofs.DepthLimit

namespace Decodables

open Json (Value maxNesting)
open Declaration (Node)

/-! ## Objects and declarations -/

/-- Some node stands for each object that is visited, and is its sample. -/
theorem visited_standsFor {limit : Nat} {top inner : List (String × Value)} {root : Declaration}
    (hs : Sampled limit top root) (visited : Visited top inner) :
    ∃ around d, Node root around d ∧ StandsFor root top around d inner ∧ Sampled limit inner d := by
  induction visited with
  | top => exact ⟨[], root, .root, .root, hs⟩
  | @inner entries _ e _ he hv ih =>
    obtain ⟨around, d, node, stands, sampled⟩ := ih
    obtain ⟨m, hm, fits⟩ := exists_right_of_mem sampled.fit he
    obtain ⟨n, ht, sampled'⟩ := fits.of_object hv
    have nested : n ∈ d.nested := List.mem_filterMap.mpr ⟨m, hm, ht⟩
    have entry : (m.key, e.2) ∈ entries := fits.1 ▸ he
    exact ⟨d :: around, n, .nested node nested, .nested stands hm ht entry hv, sampled'⟩

namespace Conversion

/-! ## Conversions of texts -/

theorem ofText_compact (settings : Settings) {v : Value} (spelled : v.numeralsOnly) (distinct : v.keysDistinct) :
    (∀ w, v.reread maxNesting = some w → ofText settings v.compact = ofDocument settings w) ∧
      (v.reread maxNesting = none → ∃ error, ofText settings v.compact = .error (.notJson error)) := by
  obtain ⟨back, none⟩ := Json.ofText?_compact spelled distinct
  constructor
  · intro w h
    rw [ofText, back w h]
  · intro h
    obtain ⟨error, refused⟩ := none h
    exact ⟨error, by rw [ofText, refused]⟩

/-- The conversion of an object is the source of a tree that has a member for each key, and
    a declaration for every object visited. -/
structure Keyed (c : Conversion) (settings : Settings) (entries : List (String × Value)) (root : Declaration) : Prop where
  sampled : (Declaration.ofSample settings.maxDepth settings.rootName entries).outcome = .ok root
  source : c.source = root.source 0 ++ "\n"
  members : root.members.map (·.key) = entries.map (·.1)
  nested : ∀ inner, Visited entries inner → ∃ around d, Node root around d ∧ StandsFor root entries around d inner ∧
    d.members.map (·.key) = inner.map (·.1)

theorem ofDocument_keyed {settings : Settings} {entries : List (String × Value)}
    (shallow : (Value.object entries).nesting ≤ settings.maxDepth + 1) :
    ∃ c root, ofDocument settings (.object entries) = .ok c ∧ c.Keyed settings entries root := by
  have allowed : (Value.object entries).cut.nesting ≤ settings.maxDepth + 1 :=
    Nat.le_trans (Json.cut_nesting_le _) shallow
  obtain ⟨root, sampled⟩ := (ofSample_ok_iff settings.rootName).mpr allowed
  obtain ⟨_, hs⟩ := ofSample_ok sampled
  refine ⟨_, root, by rw [ofDocument, sampled], sampled, rfl, members_keys hs, fun inner visited => ?_⟩
  obtain ⟨around, d, node, stands, hs'⟩ := visited_standsFor hs visited
  exact ⟨around, d, node, stands, members_keys hs'⟩

/-- A document that nests at most as deep as a reader goes is read back from its text just if
    no object in it is marked, and converted as what is read. Without marks an object is
    converted, and any other value is refused for its kind. -/
theorem compact_converted {settings : Settings} {v : Value} (spelled : v.numeralsOnly) (distinct : v.keysDistinct)
    (shallow : v.nesting ≤ 127) (enough : 126 ≤ settings.maxDepth) :
    (Value.ofText? v.compact = .ok v ↔ v.unmarked) ∧
      (∀ w, v.reread maxNesting = some w → ofText settings v.compact = ofDocument settings w) ∧
      (v.reread maxNesting = none → ∃ error, ofText settings v.compact = .error (.notJson error)) ∧
      (∀ entries, v = .object entries → v.unmarked →
        ∃ c root, ofText settings v.compact = .ok c ∧ c.Keyed settings entries root) ∧
      (v.kind ≠ .object → v.unmarked → ofText settings v.compact = .error (.notObject v.kind)) := by
  obtain ⟨converted, refused⟩ := ofText_compact settings spelled distinct
  have back_iff : v.reread maxNesting = some v ↔ v.unmarked := by
    rw [Json.reread_eq_self_iff, and_iff_left (show v.nesting ≤ maxNesting from shallow)]
  refine ⟨?_, converted, refused, ?_, ?_⟩
  · exact (Json.ofText?_compact_iff spelled distinct).trans back_iff
  · rintro entries rfl unmarked
    rw [converted _ (back_iff.mpr unmarked)]
    exact ofDocument_keyed (Nat.le_trans shallow (Nat.succ_le_succ enough))
  · intro other unmarked
    rw [converted v (back_iff.mpr unmarked)]
    cases v with
    | object entries => exact absurd rfl other
    | _ => rfl

def oddKeys : List (String × Value) :=
  [("", .string "\"\\\n\x01"), ("\x7b\"a\": [1]\x7d", .number "-0.5e+3"),
   ("\u00E9", .array [.array [.object [("$serde_json::private::number", .string "1")]], .bool true])]

theorem oddKeys_converted :
    (Value.object oddKeys).numeralsOnly ∧ (Value.object oddKeys).keysDistinct ∧
      (Value.object oddKeys).nesting ≤ 127 ∧ 126 ≤ Settings.standard.maxDepth ∧ (Value.object oddKeys).unmarked ∧
      ∃ c root, ofText .standard (Value.object oddKeys).compact = .ok c ∧ c.Keyed .standard oddKeys root := by
  have spelled : (Value.object oddKeys).numeralsOnly := by decide
  have distinct : (Value.object oddKeys).keysDistinct := by decide
  have shallow : (Value.object oddKeys).nesting ≤ 127 := by decide
  have enough : 126 ≤ Settings.standard.maxDepth := by decide
  have unmarked : (Value.object oddKeys).unmarked := by decide
  obtain ⟨-, -, -, converted, -⟩ := compact_converted spelled distinct shallow enough
  exact ⟨spelled, distinct, shallow, enough, unmarked, converted oddKeys rfl unmarked⟩

/-- Objects with the marker as their only key, over a text that is a numeral and over one
    that is none. -/
def markedNumeral : Value := .object [(Json.numberMarker, .string "1")]

def markedWord : Value := .object [(Json.numberMarker, .string "one")]

/-- For its key alone an object is refused as a number, or as a text that is no JSON. -/
theorem marked_is_refused :
    (markedNumeral.numeralsOnly ∧ markedNumeral.keysDistinct ∧ markedNumeral.nesting ≤ 127 ∧
        ofText .standard markedNumeral.compact = .error (.notObject .number)) ∧
      (markedWord.numeralsOnly ∧ markedWord.keysDistinct ∧ markedWord.nesting ≤ 127 ∧
        ∃ error, ofText .standard markedWord.compact = .error (.notJson error)) := by
  have numeral : markedNumeral.numeralsOnly ∧ markedNumeral.keysDistinct ∧ markedNumeral.nesting ≤ 127 := by decide
  have word : markedWord.numeralsOnly ∧ markedWord.keysDistinct ∧ markedWord.nesting ≤ 127 := by decide
  have number : markedNumeral.reread maxNesting = some (.number "1") := by rfl
  have nothing : markedWord.reread maxNesting = none := by rfl
  refine ⟨⟨numeral.1, numeral.2.1, numeral.2.2, ?_⟩, word.1, word.2.1, word.2.2, ?_⟩
  · rw [(ofText_compact .standard numeral.1 numeral.2.1).1 _ number]
    rfl
  · exact (ofText_compact .standard word.1 word.2.1).2 nothing

end Conversion

end Decodables
