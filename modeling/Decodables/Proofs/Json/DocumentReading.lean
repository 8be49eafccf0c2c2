/-
  Decodables.Proofs.Json.DocumentReading — every spelling of a value is read alike.

  Whatever the white space between its tokens, a text of a value gives what comes back of
  the value (`Value.reread`), and the reader stops behind it. The loops over elements and
  entries are followed from comma to comma; what they were given so far stays in front.

  Proved, over every value whose numbers are numerals and whose keys are distinct:
  - `found_elements`, `found_entries`: the loops.
  - `found_value`: a reader of values finds `Value.reread` and stops behind the spelling.
  - `ofText?_spelling`, `ofText?_compact_iff`: so for documents, with white space around them
    or without any.
-/

import Mathlib.Data.List.Nodup
import Decodables.Proofs.Json.ReaderSteps
import Decodables.Proofs.Json.Rereading
import Decodables.Proofs.Json.Spelling

namespace Decodables.Json

namespace Document

/-! ## Containers -/

/-- On a text of the value the reader finds what comes back of it, and stops behind it. -/
def ReadsBack (reader : Reader Value) (sp : Spacing) (level budget : Nat) (v : Value) : Prop :=
  ∀ blank rest, (∀ c ∈ blank, isSpace c) → Numeral.Ends rest →
    found (reader (blank ++ (v.spelling sp level ++ rest))) = (v.reread budget).map (·, rest)

section

variable {reader : Reader Value} {sp : Spacing} {level budget bound : Nat}

/-- Behind an element or an entry comes a comma, or white space and a closing bracket. -/
theorem ends_separator {α : Type} {others : List α} {more : List Char} (h : others = [] → more = []) (k : Nat)
    {c : Char} (hc : Numeral.goesOn c = false) (rest : List Char) :
    Numeral.Ends (Layout.separator others ++ (more ++ (sp.line k ++ c :: rest))) := by
  cases others with
  | nil => rw [h rfl]; exact ends_blank (sp.line_blank k) hc rest
  | cons _ _ => exact ends_cons rfl _

theorem found_elements {items : List Value} (spelled : ∀ v ∈ items, v.numeralsOnly)
    (reads : ∀ v ∈ items, ReadsBack reader sp level budget v) (k : Nat) (rest : List Char) :
    ∀ (done : List Value) (s : List Char) (le : s.length ≤ bound),
      s = Layout.separator items ++ (itemsSpelling sp level items ++ (sp.line k ++ ']' :: rest)) →
      found (elements reader bound done s le) =
        (rereadItems budget items).map fun ws => (.array (done.reverse ++ ws), rest) := by
  induction items with
  | nil =>
    intro done s le hs
    have closed : skipSpace s = ']' :: rest := hs ▸ skipSpace_blank (sp.line_blank k) rfl rest
    rw [elements_close reader done le closed]
    simp [rereadItems]
  | cons v items ih =>
    intro done s le hs
    obtain ⟨spelled, others⟩ := List.forall_mem_cons.mp spelled
    obtain ⟨read, reads⟩ := List.forall_mem_cons.mp reads
    obtain ⟨c, r, head, shown, opened, -⟩ := spelling_head spelled sp level
    -- what stands behind the element
    let behind := Layout.separator items ++ (itemsSpelling sp level items ++ (sp.line k ++ ']' :: rest))
    have ends : Numeral.Ends behind := ends_separator (by rintro rfl; rfl) k rfl rest
    have comma : skipSpace s = ',' :: (sp.line level ++ (v.spelling sp level ++ behind)) := by
      rw [hs, itemsSpelling]
      simp [Layout.separator, skipSpace_cons, isSpace, behind]
    have skipped : skipSpace (sp.line level ++ (v.spelling sp level ++ behind)) = c :: (r ++ behind) := by
      rw [head]
      exact skipSpace_blank (sp.line_blank level) shown _
    have element : found (reader (c :: (r ++ behind))) = (v.reread budget).map (·, behind) := by
      have := read [] behind (List.forall_mem_nil _) ends
      rwa [head] at this
    obtain ⟨fails, goes⟩ := elements_comma reader done le comma skipped opened
    rw [rereadItems]
    cases back : v.reread budget with
    | none =>
      rw [fails (by rw [element, back]; rfl)]
      rfl
    | some w =>
      obtain ⟨le', next⟩ := goes w behind (by rw [element, back]; rfl)
      rw [next, ih others reads (w :: done) behind le' rfl]
      simp [Function.comp_def]

/-- An array behind its opening bracket. -/
theorem found_array {items : List Value} (spelled : ∀ v ∈ items, v.numeralsOnly)
    (reads : ∀ v ∈ items, ReadsBack reader sp (level + 1) budget v) (rest : List Char) {s : List Char}
    (hs : '[' :: s = (Value.array items).spelling sp level ++ rest) :
    found (array reader s) = (rereadItems budget items).map fun ws => (.array ws, rest) := by
  cases items with
  | nil =>
    cases hs
    exact array_close reader (skipSpace_cons rfl rest)
  | cons v items =>
    obtain ⟨spelled, others⟩ := List.forall_mem_cons.mp spelled
    obtain ⟨read, reads⟩ := List.forall_mem_cons.mp reads
    obtain ⟨c, r, head, shown, opened, -⟩ := spelling_head spelled sp (level + 1)
    let behind := Layout.separator items ++ (itemsSpelling sp (level + 1) items ++ (sp.line level ++ ']' :: rest))
    have ends : Numeral.Ends behind := ends_separator (by rintro rfl; rfl) level rfl rest
    have skipped : skipSpace s = c :: (r ++ behind) := by
      rw [Value.spelling, if_neg (by simp), itemsSpelling, head] at hs
      have hs' : s = sp.line (level + 1) ++ c :: (r ++ behind) := by simpa [behind] using hs
      rw [hs', skipSpace_blank (sp.line_blank (level + 1)) shown]
    have element : found (reader (c :: (r ++ behind))) = (v.reread budget).map (·, behind) := by
      have := read [] behind (List.forall_mem_nil _) ends
      rwa [head] at this
    obtain ⟨fails, goes⟩ := array_open reader skipped opened
    rw [rereadItems]
    cases back : v.reread budget with
    | none =>
      rw [fails (by rw [element, back]; rfl)]
      rfl
    | some w =>
      obtain ⟨le', next⟩ := goes w behind (by rw [element, back]; rfl)
      rw [next, found_elements others reads level rest [w] behind le' rfl]
      simp [Function.comp_def]

theorem found_entries {es : List (String × Value)} (reads : ∀ e ∈ es, ReadsBack reader sp level budget e.2)
    (k : Nat) (rest : List Char) :
    ∀ (done : List (String × Value)) (s : List Char) (le : s.length ≤ bound),
      s = Layout.separator es ++ (entriesSpelling sp level es ++ (sp.line k ++ '\x7d' :: rest)) →
      found (entries reader bound done s le) =
        (rereadEntries budget es).map fun fs => (objectOf (fs.reverse ++ done), rest) := by
  induction es with
  | nil =>
    intro done s le hs
    have closed : skipSpace s = '\x7d' :: rest := hs ▸ skipSpace_blank (sp.line_blank k) rfl rest
    rw [entries_close reader done le closed]
    simp [rereadEntries]
  | cons e es ih =>
    intro done s le hs
    obtain ⟨key, v⟩ := e
    obtain ⟨read, reads⟩ := List.forall_mem_cons.mp reads
    let behind := Layout.separator es ++ (entriesSpelling sp level es ++ (sp.line k ++ '\x7d' :: rest))
    have ends : Numeral.Ends behind := ends_separator (by rintro rfl; rfl) k rfl rest
    let value := sp.behindColon ++ (v.spelling sp level ++ behind)
    let named := key.toList.flatMap StringLiteral.escapeChar ++ '"' :: ':' :: value
    have comma : skipSpace s = ',' :: (sp.line level ++ '"' :: named) := by
      rw [hs, entriesSpelling]
      simp [Layout.separator, skipSpace_cons, isSpace, StringLiteral.write, named, value, behind]
    have skipped : skipSpace (sp.line level ++ '"' :: named) = '"' :: named :=
      skipSpace_blank (sp.line_blank level) rfl _
    have entry : found (entry reader named) = (v.reread budget).map fun w => ((key, w), behind) := by
      rw [entry_key, read _ behind sp.behindColon_blank ends, String.ofList_toList]
      simp [Function.comp_def]
    obtain ⟨fails, goes⟩ := entries_comma reader done le comma skipped
    rw [rereadEntries]
    cases back : v.reread budget with
    | none =>
      rw [fails (by rw [entry, back]; rfl)]
      rfl
    | some w =>
      obtain ⟨le', next⟩ := goes (key, w) behind (by rw [entry, back]; rfl)
      rw [next, ih reads ((key, w) :: done) behind le' rfl]
      simp [Function.comp_def]

end

/-- Entries with distinct keys make an object that holds them in order. -/
theorem objectOf_eq {done : List (String × Value)} (h : (done.map (·.1)).Nodup) :
    objectOf done = .object done.reverse := by
  have put : ∀ {key : String} {v : Value} {es : List (String × Value)}, key ∉ es.map (·.1) →
      putEntry key v es = es ++ [(key, v)] := by
    intro key v es hk
    induction es with
    | nil => rfl
    | cons e es ih =>
      rw [List.map_cons, List.mem_cons, not_or] at hk
      rw [putEntry, if_neg (Ne.symm hk.1), ih hk.2, List.cons_append]
  rw [objectOf]
  congr 1
  induction done with
  | nil => rfl
  | cons e done ih =>
    rw [List.map_cons, List.nodup_cons] at h
    rw [List.foldr_cons, ih h.2, List.reverse_cons, put (by simpa using h.1)]

theorem rereadEntries_keys {budget : Nat} {es fs : List (String × Value)} (h : rereadEntries budget es = some fs) :
    fs.map (·.1) = es.map (·.1) := by
  induction es generalizing fs with
  | nil => cases h; rfl
  | cons e es ih =>
    obtain ⟨key, v⟩ := e
    rw [rereadEntries, Option.bind_eq_some_iff] at h
    obtain ⟨w, _, h⟩ := h
    rw [Option.map_eq_some_iff] at h
    obtain ⟨fs, back, rfl⟩ := h
    rw [List.map_cons, List.map_cons, ih back]

/-- What a reader finds behind the marker and its colon. -/
theorem found_spelledNumber {sp : Spacing} {level : Nat} {v : Value} {es : List (String × Value)} (k : Nat)
    (spelled : v.numeralsOnly) (rest : List Char) :
    found (spelledNumber (sp.behindColon ++ (v.spelling sp level ++ (Layout.separator es ++
      (entriesSpelling sp level es ++ (sp.line k ++ '\x7d' :: rest)))))) =
        (markedNumber? ((numberMarker, v) :: es)).map (·, rest) := by
  obtain ⟨c, r, head, shown, -, quoted⟩ := spelling_head spelled sp level
  by_cases quote : c = '"'
  · obtain ⟨s, rfl⟩ := quoted quote
    have string : ∀ behind, skipSpace (sp.behindColon ++ ((Value.string s).spelling sp level ++ behind)) =
        '"' :: (s.toList.flatMap StringLiteral.escapeChar ++ '"' :: behind) := by
      intro behind
      rw [Value.spelling, StringLiteral.write, List.cons_append, skipSpace_blank sp.behindColon_blank rfl]
      simp
    cases es with
    | nil =>
      have closed : skipSpace (Layout.separator ([] : List (String × Value)) ++ (entriesSpelling sp level [] ++
          (sp.line k ++ '\x7d' :: rest))) = '\x7d' :: rest := skipSpace_blank (sp.line_blank k) rfl rest
      rw [spelledNumber_close (string _) closed, markedNumber?, String.ofList_toList]
      split <;> rfl
    | cons e es =>
      have comma : skipSpace (Layout.separator (e :: es) ++ (entriesSpelling sp level (e :: es) ++
          (sp.line k ++ '\x7d' :: rest))) = ',' :: _ := skipSpace_cons rfl _
      rw [spelledNumber_further (string _) comma]
      rfl
  · rw [head, List.cons_append, spelledNumber_other (skipSpace_blank sp.behindColon_blank shown _) quote]
    have unmarked : markedNumber? ((numberMarker, v) :: es) = none := by
      unfold markedNumber?
      split
      · rename_i s spelling
        cases spelling
        rw [Value.spelling, StringLiteral.write] at head
        cases head
        exact absurd rfl quote
      · rfl
    rw [unmarked]
    rfl

/-! ## Values -/

/-- An object behind its opening brace. -/
theorem found_object {reader : Reader Value} {sp : Spacing} {level budget : Nat} {es : List (String × Value)}
    (spelled : ∀ e ∈ es, e.2.numeralsOnly) (distinct : (es.map (·.1)).Nodup)
    (reads : ∀ e ∈ es, ReadsBack reader sp (level + 1) budget e.2) (rest : List Char) {s : List Char}
    (hs : '\x7b' :: s = (Value.object es).spelling sp level ++ rest) :
    found (object reader s) = ((Value.object es).reread (budget + 1)).map (·, rest) := by
  cases es with
  | nil =>
    cases hs
    exact object_close reader (skipSpace_cons rfl rest)
  | cons e es =>
    obtain ⟨key, v⟩ := e
    obtain ⟨read, reads⟩ := List.forall_mem_cons.mp reads
    let behind := Layout.separator es ++ (entriesSpelling sp (level + 1) es ++ (sp.line level ++ '\x7d' :: rest))
    have ends : Numeral.Ends behind := ends_separator (by rintro rfl; rfl) level rfl rest
    let value := sp.behindColon ++ (v.spelling sp (level + 1) ++ behind)
    have skipped : skipSpace s = '"' :: (key.toList.flatMap StringLiteral.escapeChar ++ '"' :: ':' :: value) := by
      rw [Value.spelling, if_neg (by simp), entriesSpelling] at hs
      have hs' : s = sp.line (level + 1) ++
          '"' :: (key.toList.flatMap StringLiteral.escapeChar ++ '"' :: ':' :: value) := by
        simpa [StringLiteral.write, value, behind] using hs
      rw [hs', skipSpace_blank (sp.line_blank (level + 1)) rfl]
    by_cases marked : key = numberMarker
    · subst marked
      rw [object_marked reader skipped, found_spelledNumber level (List.forall_mem_cons.mp spelled).1 rest, Value.reread]
      rfl
    · have unmarked : isMarked ((key, v) :: es) = false := by simpa [isMarked] using marked
      have found_v : found (reader value) = (v.reread budget).map (·, behind) :=
        read _ behind sp.behindColon_blank ends
      obtain ⟨fails, goes⟩ := object_open reader marked skipped
      simp only [Value.reread, unmarked, Bool.false_eq_true, if_false, rereadEntries]
      cases back : v.reread budget with
      | none =>
        rw [fails (by rw [found_v, back]; rfl)]
        rfl
      | some w =>
        obtain ⟨le', next⟩ := goes w behind (by rw [found_v, back]; rfl)
        rw [next, found_entries reads level rest [(key, w)] behind le' rfl]
        cases backs : rereadEntries budget es with
        | none => rfl
        | some fs =>
          have keys : ((fs.reverse ++ [(key, w)]).map (·.1)).Nodup := by
            rw [← List.nodup_reverse, ← List.map_reverse]
            simpa [rereadEntries_keys backs] using distinct
          simp [objectOf_eq keys]

theorem array_spelling (sp : Spacing) (level : Nat) (items : List Value) :
    ∃ s, (Value.array items).spelling sp level = '[' :: s := by
  rw [Value.spelling]
  split <;> exact ⟨_, rfl⟩

theorem object_spelling (sp : Spacing) (level : Nat) (es : List (String × Value)) :
    ∃ s, (Value.object es).spelling sp level = '\x7b' :: s := by
  rw [Value.spelling]
  split <;> exact ⟨_, rfl⟩

/-- On a spelling of a value a reader finds what comes back of it. -/
theorem found_value {v : Value} (sp : Spacing) (spelled : v.numeralsOnly) (distinct : v.keysDistinct) :
    ∀ level budget, ReadsBack (value budget) sp level budget v := by
  induction v using Value.induction with
  | step v ih =>
    intro level budget blank rest space ends
    match v, ih with
    | .null, _ =>
      have first : skipSpace (blank ++ (Value.null.spelling sp level ++ rest)) = 'n' :: (['u', 'l', 'l'] ++ rest) :=
        skipSpace_blank space rfl _
      rw [value_cons first]
      exact word_append ['u', 'l', 'l'] .null rest
    | .bool true, _ =>
      have first : skipSpace (blank ++ ((Value.bool true).spelling sp level ++ rest)) =
          't' :: (['r', 'u', 'e'] ++ rest) := skipSpace_blank space rfl _
      rw [value_cons first]
      exact word_append ['r', 'u', 'e'] (.bool true) rest
    | .bool false, _ =>
      have first : skipSpace (blank ++ ((Value.bool false).spelling sp level ++ rest)) =
          'f' :: (['a', 'l', 's', 'e'] ++ rest) := skipSpace_blank space rfl _
      rw [value_cons first]
      exact word_append ['a', 'l', 's', 'e'] (.bool false) rest
    | .string s, _ =>
      have first : skipSpace (blank ++ ((Value.string s).spelling sp level ++ rest)) =
          '"' :: (s.toList.flatMap StringLiteral.escapeChar ++ '"' :: rest) := by
        rw [Value.spelling, StringLiteral.write, List.cons_append, skipSpace_blank space rfl]
        simp
      rw [value_cons first, if_pos rfl, StringLiteral.found_read_write, String.ofList_toList]
      rfl
    | .number literal, _ =>
      have numeral : Numeral.IsNumeral literal.toList := decide_eq_true_eq.mp spelled
      obtain ⟨c, r, head, first⟩ := Numeral.isNumeral_head numeral
      have read := Numeral.found_read numeral ends
      have shown : skipSpace (blank ++ ((Value.number literal).spelling sp level ++ rest)) = c :: (r ++ rest) := by
        obtain ⟨d, t, starts, shown, -⟩ := spelling_head spelled sp level
        rw [starts, List.cons_append, skipSpace_blank space shown]
        rw [Value.spelling, head] at starts
        cases starts
        rfl
      rw [head, List.cons_append] at read
      rw [value_numeral shown first, read]
      simp [Value.reread, ← head]
    | .array items, ih =>
      obtain ⟨s, starts⟩ := array_spelling sp level items
      have shown : skipSpace (blank ++ ((Value.array items).spelling sp level ++ rest)) = '[' :: (s ++ rest) := by
        rw [starts, List.cons_append, skipSpace_blank space rfl]
      rw [value_cons shown]
      cases budget with
      | zero => rfl
      | succ budget =>
        have spelled' := (all_array_iff.mp spelled).2
        have distinct' := keysDistinct_array_iff.mp distinct
        have reads : ∀ v ∈ items, ReadsBack (value budget) sp (level + 1) budget v := fun v hv =>
          ih v hv (spelled' v hv) (distinct' v hv) (level + 1) budget
        have read := found_array spelled' reads rest (by rw [starts, List.cons_append])
        simpa [Value.reread, Function.comp_def] using read
    | .object es, ih =>
      obtain ⟨s, starts⟩ := object_spelling sp level es
      have shown : skipSpace (blank ++ ((Value.object es).spelling sp level ++ rest)) = '\x7b' :: (s ++ rest) := by
        rw [starts, List.cons_append, skipSpace_blank space rfl]
      rw [value_cons shown]
      cases budget with
      | zero => rfl
      | succ budget =>
        have spelled' := (all_object_iff.mp spelled).2
        obtain ⟨nodup, distinct'⟩ := keysDistinct_object_iff.mp distinct
        have reads : ∀ e ∈ es, ReadsBack (value budget) sp (level + 1) budget e.2 := fun e he =>
          ih e.2 (List.mem_map_of_mem he) (spelled' e he) (distinct' e he) (level + 1) budget
        exact found_object spelled' nodup reads rest (by rw [starts, List.cons_append])

end Document

/-! ## Documents -/

/-- On a text of a value, with white space around it, what comes back is the document. -/
theorem ofText?_spelling {v : Value} (sp : Spacing) (level : Nat) (before behind : List Char) {text : String}
    (spelled : v.numeralsOnly) (distinct : v.keysDistinct) (around : ∀ c ∈ before ++ behind, isSpace c)
    (h : text.toList = before ++ (v.spelling sp level ++ behind)) :
    (∀ w, v.reread maxNesting = some w → Value.ofText? text = .ok w) ∧
      (v.reread maxNesting = none → ∃ error, Value.ofText? text = .error error) := by
  have blank : skipSpace behind = [] :=
    List.dropWhile_eq_nil_iff.mpr fun c hc => around c (List.mem_append_right _ hc)
  have ends : Numeral.Ends behind := by
    intro c hc
    have space := around c (List.mem_append_right _ (List.mem_of_mem_head? hc))
    exact goesOn_space space
  have read := Document.found_value sp spelled distinct level maxNesting before behind
    (fun c hc => around c (List.mem_append_left _ hc)) ends
  rw [← h] at read
  constructor
  · intro w back
    rw [back] at read
    obtain ⟨_, read⟩ := found_eq_some_iff.mp read
    simp [Value.ofText?, Document.whole, read, bind, Except.bind, blank, Except.mapError]
  · intro back
    rw [back] at read
    obtain ⟨fault, read⟩ := found_eq_none_iff.mp read
    simp [Value.ofText?, Document.whole, read, bind, Except.bind, Except.mapError]

theorem ofText?_compact {v : Value} (spelled : v.numeralsOnly) (distinct : v.keysDistinct) :
    (∀ w, v.reread maxNesting = some w → Value.ofText? v.compact = .ok w) ∧
      (v.reread maxNesting = none → ∃ error, Value.ofText? v.compact = .error error) :=
  ofText?_spelling .tight 0 [] [] spelled distinct nofun (by simp [Value.compact])

theorem ofText?_compact_iff {v w : Value} (spelled : v.numeralsOnly) (distinct : v.keysDistinct) :
    Value.ofText? v.compact = .ok w ↔ v.reread maxNesting = some w := by
  obtain ⟨back, none⟩ := ofText?_compact spelled distinct
  refine ⟨fun h => ?_, back w⟩
  cases read : v.reread maxNesting with
  | none =>
    obtain ⟨error, h'⟩ := none read
    rw [h] at h'
    cases h'
  | some w' =>
    rw [back w' read] at h
    cases h
    rfl

end Decodables.Json
