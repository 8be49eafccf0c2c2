/-
  Decodables.Proofs.PayloadReading — a host finds in a payload all that a conversion gave.

  A payload is a document of its own, laid out over lines. No object in it has a key twice,
  and every string is read back as it was, so whoever reads the document looks its fields up
  by their names. A warning is told from the others by its kind, which stands next to its
  own fields.

  Proved, over every request, text and conversion:
  - `ofDocument?_document`: a warning is found in its document.
  - `document_reads_back`: the document of a conversion is read back from its layout.
  - `answer_ok_iff`, `answer_error_iff`: what decides about an answer besides its form.
  - `hosted_agrees`: with the payload asked for a request fails just as it does without, and
    else the payload holds the source that it gives without, and the warnings. No two
    conversions have one payload.
-/

import Decodables.Command.Answer
import Decodables.Proofs.Json.DocumentReading

namespace Decodables

open Json (Value)

/-! ## Warnings in a document -/

namespace Json

def textAt? (entries : List (String × Value)) (key : String) : Option String :=
  match entries.lookup key with
  | some (.string s) => some s
  | _ => none

def countAt? (entries : List (String × Value)) (key : String) : Option Nat :=
  match entries.lookup key with
  | some (.number literal) =>
    if literal.toList.all Char.isDigit then some (Nat.ofDigitChars 10 literal.toList 0) else none
  | _ => none

end Json

open Json (textAt? countAt?)

def Cause.ofEntries? (entries : List (String × Value)) : Option Cause := do
  match ← textAt? entries "kind" with
  | "empty_array" => some .emptyArray
  | "null_first_element" => some .nullFirstElement
  | "mixed_array" => do
    some (.mixedArray (← countAt? entries "index") (← textAt? entries "first") (← textAt? entries "found"))
  | "empty_identifier" => do
    some (.emptyIdentifier (← textAt? entries "key") (← textAt? entries "fallback"))
  | "identifier_collision" => do
    some (.collision (← textAt? entries "key") (← textAt? entries "wanted") (← textAt? entries "chosen"))
  | _ => none

def Warning.ofDocument? : Value → Option Warning
  | .object entries => do some ⟨← textAt? entries "path", ← Cause.ofEntries? entries⟩
  | _ => none

namespace Warning

theorem ofDocument?_document (w : Warning) : ofDocument? w.document = some w := by
  obtain ⟨path, cause⟩ := w
  cases cause with
  | mixedArray index first found =>
    have digits : (Nat.toDigits 10 index).all Char.isDigit :=
      List.all_eq_true.mpr fun c hc => Nat.isDigit_of_mem_toDigits (by decide) (by decide) hc
    simp [document, Cause.entries, ofDocument?, Cause.ofEntries?, textAt?, countAt?, List.lookup_cons, digits]
  | _ => rfl

theorem document_spelled (w : Warning) : w.document.numeralsOnly := by
  obtain ⟨path, cause⟩ := w
  cases cause with
  | mixedArray index first found =>
    have numeral : Json.Numeral.IsNumeral (toString index).toList := Json.Numeral.isNumeral_toString index
    simpa [document, Cause.entries, Value.numeralsOnly, Value.all, Json.entriesAll, Value.isSpelled] using numeral
  | _ => rfl

theorem document_unmarked (w : Warning) : w.document.unmarked := by
  obtain ⟨path, cause⟩ := w
  cases cause <;>
    simp [document, Cause.entries, Value.unmarked, Value.all, Json.entriesAll, Value.isUnmarked, Json.isMarked, Json.numberMarker]

theorem document_keysDistinct (w : Warning) : w.document.keysDistinct := by
  obtain ⟨path, cause⟩ := w
  cases cause <;> rfl

theorem document_nesting (w : Warning) : w.document.nesting = 1 := by
  obtain ⟨path, cause⟩ := w
  cases cause <;> rfl

end Warning

namespace Conversion

/-! ## The document of a conversion -/

variable (c : Conversion)

theorem document_all {check : Value → Bool} (string : ∀ s, check (.string s)) (array : ∀ items, check (.array items))
    (object : ∀ v es, check (.object (("language", v) :: es))) (warnings : ∀ w : Warning, w.document.all check) :
    c.document.all check := by
  have diagnostics : (Value.array (c.warnings.map Warning.document)).all check :=
    Json.all_array_iff.mpr ⟨array _, List.forall_mem_map.mpr fun w _ => warnings w⟩
  refine Json.all_object_iff.mpr ⟨object _ _, ?_⟩
  simp only [List.forall_mem_cons]
  exact ⟨string _, string _, diagnostics, List.forall_mem_nil _⟩

theorem document_spelled : c.document.numeralsOnly :=
  c.document_all (fun _ => rfl) (fun _ => rfl) (fun _ _ => rfl) Warning.document_spelled

theorem document_unmarked : c.document.unmarked :=
  c.document_all (fun _ => rfl) (fun _ => rfl)
    (fun _ _ => by simp [Value.isUnmarked, Json.isMarked, Json.numberMarker]) Warning.document_unmarked

theorem document_keysDistinct : c.document.keysDistinct := by
  have diagnostics : (Value.array (c.warnings.map Warning.document)).keysDistinct :=
    Json.keysDistinct_array_iff.mpr (List.forall_mem_map.mpr fun w _ => w.document_keysDistinct)
  have keys : ["language", "content", "diagnostics"].Nodup := by decide
  refine Json.keysDistinct_object_iff.mpr ⟨keys, ?_⟩
  simp only [List.forall_mem_cons]
  exact ⟨rfl, rfl, diagnostics, List.forall_mem_nil _⟩

/-- The document, the array of warnings and the warnings stand inside one another. -/
theorem document_nesting_le : c.document.nesting ≤ 3 := by
  have diagnostics : (Value.array (c.warnings.map Warning.document)).nesting ≤ 2 :=
    Nat.succ_le_succ (Json.itemsNesting_le_iff.mpr (List.forall_mem_map.mpr fun w _ => Nat.le_of_eq w.document_nesting))
  refine Nat.succ_le_succ (Json.entriesNesting_le_iff.mpr ?_)
  simp only [List.forall_mem_cons]
  exact ⟨Nat.zero_le _, Nat.zero_le _, diagnostics, List.forall_mem_nil _⟩

/-- The layout of the document is a text of it. -/
theorem document_reads_back : Value.ofText? c.document.layout = .ok c.document := by
  have back : c.document.reread Json.maxNesting = some c.document :=
    Json.reread_eq_self_iff.mpr ⟨c.document_unmarked, Nat.le_trans c.document_nesting_le (by decide)⟩
  have text : c.document.layout.toList = [] ++ (c.document.spelling .wide 0 ++ []) := by
    rw [Json.layout_eq_spelling, String.toList_ofList, List.append_nil, List.nil_append]
  exact (Json.ofText?_spelling .wide 0 [] [] c.document_spelled c.document_keysDistinct nofun text).1 _ back

theorem document_warnings (warnings : List Warning) :
    (warnings.map Warning.document).mapM Warning.ofDocument? = some warnings := by
  induction warnings with
  | nil => rfl
  | cons w warnings ih =>
    rw [List.map_cons, List.mapM_cons, w.ofDocument?_document, ih]
    rfl

/-- The layout ends where the document does, so that the line feed of the payload is the only
    one behind it. -/
theorem document_layout_ends : c.document.layout.toList.getLast? = some '\x7d' := by
  rw [Json.layout_eq_spelling, String.toList_ofList, document, Value.spelling, if_neg (by simp), List.getLast?_cons]
  simp

/-- No two conversions have one payload. -/
theorem payload_inj {c c' : Conversion} (h : c.payload = c'.payload) : c = c' := by
  have layouts : c.document.layout = c'.document.layout := by simpa [payload] using h
  have documents : c.document = c'.document := by
    have read := c.document_reads_back
    rw [layouts, c'.document_reads_back] at read
    exact (Except.ok.inj read).symm
  have fields : c.source = c'.source ∧ c.warnings.map Warning.document = c'.warnings.map Warning.document := by
    simpa [document] using documents
  have warnings : c.warnings = c'.warnings := by
    have told := document_warnings c.warnings
    rw [fields.2, document_warnings c'.warnings] at told
    exact (Option.some.inj told).symm
  obtain ⟨source, _⟩ := c
  obtain ⟨source', _⟩ := c'
  obtain ⟨rfl, -⟩ := fields
  obtain rfl := warnings
  rfl

end Conversion

namespace Command

/-! ## Answers -/

namespace Arguments

/-- What a request makes of a text, whatever form the answer has. -/
def conversion (a : Arguments) (text : String) : Except Failure Conversion :=
  match a.settings with
  | .error failure => .error failure
  | .ok settings => (Conversion.ofText settings text).mapError .unconverted

/-- The form that is asked for does not matter for the conversion. -/
theorem conversion_json (a : Arguments) (json : Bool) (text : String) :
    conversion { a with json } text = a.conversion text := by
  simp only [conversion, settings]

/-- Only the text of the answer hangs on the form that is asked for. -/
theorem answer_eq (a : Arguments) (text : String) :
    a.answer text = (a.conversion text).map fun c => ⟨a.render c, c.warnings⟩ := by
  unfold answer conversion
  cases a.settings with
  | error failure => rfl
  | ok settings =>
    dsimp only
    cases Conversion.ofText settings text <;> rfl

theorem conversion_ok_iff {a : Arguments} {text : String} {c : Conversion} : a.conversion text = .ok c ↔
    ∃ settings, a.settings = .ok settings ∧ Conversion.ofText settings text = .ok c := by
  unfold conversion
  cases a.settings with
  | error failure => exact iff_of_false nofun nofun
  | ok settings =>
    simp only [Except.ok.injEq, exists_eq_left']
    cases Conversion.ofText settings text <;> simp [Except.mapError]

theorem answer_error_iff {a : Arguments} {text : String} {failure : Failure} :
    a.answer text = .error failure ↔ a.conversion text = .error failure := by
  rw [answer_eq]
  cases a.conversion text <;> simp [Except.map]

theorem answer_ok_iff {a : Arguments} {text : String} {answer : Answer} : a.answer text = .ok answer ↔
    ∃ c, a.conversion text = .ok c ∧ answer = ⟨a.render c, c.warnings⟩ := by
  rw [answer_eq]
  cases a.conversion text <;> simp [Except.map, eq_comm]

theorem answer_of_read {a : Arguments} {settings : Settings} {text : String} {v : Value} {c : Conversion}
    (set : a.settings = .ok settings) (read : Value.ofText? text = .ok v) (converted : Conversion.ofDocument settings v = .ok c) :
    a.answer text = .ok ⟨a.render c, c.warnings⟩ := by
  have ofText : Conversion.ofText settings text = .ok c := by
    rw [Conversion.ofText, read]
    exact converted
  exact answer_ok_iff.mpr ⟨c, conversion_ok_iff.mpr ⟨settings, set, ofText⟩, rfl⟩

end Arguments

/-- A request for the payload fails just as the one for the source does. Where it does not,
    the payload is a document, a line feed behind it, that holds the language, the source
    that the other request gives, and the warnings. No two conversions have one payload. -/
theorem hosted_agrees (a : Arguments) (text : String) :
    (∀ failure, { a with json := true }.answer text = .error failure ↔
      { a with json := false }.answer text = .error failure) ∧
    (∀ answer, { a with json := true }.answer text = .ok answer →
      ∃ settings c document items, a.settings = .ok settings ∧ Conversion.ofText settings text = .ok c ∧
        { a with json := false }.answer text = .ok ⟨c.source, c.warnings⟩ ∧
        answer = ⟨document ++ "\n", c.warnings⟩ ∧ document.toList.getLast? = some '\x7d' ∧
        Value.ofText? document = .ok (.object
          [("language", .string "swift"), ("content", .string c.source), ("diagnostics", .array items)]) ∧
        items.mapM Warning.ofDocument? = some c.warnings) ∧
    ∀ c c' : Conversion, c.payload = c'.payload → c = c' := by
  refine ⟨fun failure => ?_, fun answer h => ?_, fun c c' => Conversion.payload_inj⟩
  · rw [Arguments.answer_error_iff, Arguments.answer_error_iff, a.conversion_json true, a.conversion_json false]
  · obtain ⟨c, converted, rfl⟩ := Arguments.answer_ok_iff.mp h
    rw [a.conversion_json true] at converted
    have plain : { a with json := false }.answer text = .ok ⟨c.source, c.warnings⟩ :=
      Arguments.answer_ok_iff.mpr ⟨c, (a.conversion_json false text).trans converted, rfl⟩
    obtain ⟨settings, set, converted⟩ := Arguments.conversion_ok_iff.mp converted
    exact ⟨settings, c, c.document.layout, c.warnings.map Warning.document, set, converted, plain, rfl,
      c.document_layout_ends, c.document_reads_back, Conversion.document_warnings c.warnings⟩

def untidy : Value := .object [("a b", .array [.null]), ("aB", .string "x"), ("!", .null)]

def untidyWarnings : List Warning :=
  [⟨"$[\"a b\"]", .nullFirstElement⟩, ⟨"$.aB", .collision "aB" "aB" "aB2"⟩,
   ⟨"$[\"!\"]", .emptyIdentifier "!" "field3"⟩]

theorem untidy_hosted :
    ∃ c answer document items, Conversion.ofText .standard untidy.compact = .ok c ∧ c.warnings = untidyWarnings ∧
      Arguments.answer ⟨none, none, none, none, true⟩ untidy.compact = .ok answer ∧
      answer.text = document ++ "\n" ∧
      Value.ofText? document = .ok (.object
        [("language", .string "swift"), ("content", .string c.source), ("diagnostics", .array items)]) ∧
      items.mapM Warning.ofDocument? = some untidyWarnings := by
  have read : Value.ofText? untidy.compact = .ok untidy :=
    (Json.ofText?_compact_iff (by decide) (by decide)).mpr (by rfl)
  obtain ⟨c, converted, warnings⟩ : ∃ c, Conversion.ofDocument .standard untidy = .ok c ∧ c.warnings = untidyWarnings :=
    ⟨_, rfl, rfl⟩
  have ofText : Conversion.ofText .standard untidy.compact = .ok c := by
    rw [Conversion.ofText, read]
    exact converted
  have set : Arguments.settings ⟨none, none, none, none, true⟩ = .ok .standard := by rfl
  have answered : Arguments.answer ⟨none, none, none, none, true⟩ untidy.compact = .ok ⟨c.payload, c.warnings⟩ :=
    Arguments.answer_of_read set read converted
  obtain ⟨-, told, -⟩ := hosted_agrees ⟨none, none, none, none, true⟩ untidy.compact
  obtain ⟨settings, c', document, items, set', ofText', -, form, -, holds, warned⟩ := told _ answered
  obtain rfl : settings = .standard := Except.ok.inj (set'.symm.trans set)
  obtain rfl : c' = c := Except.ok.inj (ofText'.symm.trans ofText)
  exact ⟨c', _, document, items, ofText, warnings, answered, congrArg Answer.text form, holds, warnings ▸ warned⟩

end Command

end Decodables
