/-
  Decodables.Proofs.WarningLines — a warning is one line.

  A key gets into a message as steps of a path, between quotes, and by the names that it
  derives. A path has only plain keys as they are and writes the others as JSON strings,
  quotes escape whatever would not show, and names are spelled with name characters but for
  two capitals. So no control character gets through, whatever the keys hold, and on the
  standard error stream each warning takes one line.

  Proved, over every text, path and document:
  - `quoted_clear`, `path_clear`: what quotes and paths make of keys.
  - `raised_names_clear`: the names in a warning, and the kinds of elements.
  - `ofSample_warning_clear`, `ofSample_failure_clear`: all that a sample has to say.
  - `told_lines`: what is told of such warnings is a line for each.
  - `warnings_one_line`: the messages of a sample, and the standard error stream of a run.
-/

import Decodables.Proofs.GivenNames
import Decodables.Proofs.PathReading
import Decodables.Proofs.PayloadReading
import Decodables.Proofs.RunOutcome

namespace Decodables

open Identifier (Style isNameChar form strayLetters)
open Json (Value)

/-! ## Texts without control characters -/

def ClearChars (cs : List Char) : Prop := ∀ c ∈ cs, 0x20 ≤ c.toNat

instance : DecidablePred ClearChars := fun cs =>
  decidable_of_iff (cs.all fun c => decide (0x20 ≤ c.toNat)) (by simp [ClearChars])

@[simp] theorem clearChars_nil : ClearChars [] := List.forall_mem_nil _

@[simp] theorem clearChars_cons {c : Char} {cs : List Char} : ClearChars (c :: cs) ↔ 0x20 ≤ c.toNat ∧ ClearChars cs :=
  List.forall_mem_cons

@[simp] theorem clearChars_append {as bs : List Char} : ClearChars (as ++ bs) ↔ ClearChars as ∧ ClearChars bs :=
  List.forall_mem_append

@[simp] theorem clearChars_flatMap {α : Type} {as : List α} {f : α → List Char} :
    ClearChars (as.flatMap f) ↔ ∀ a ∈ as, ClearChars (f a) :=
  List.forall_mem_flatMap

def Clear (text : String) : Prop := ClearChars text.toList

instance : DecidablePred Clear := fun text => inferInstanceAs (Decidable (ClearChars text.toList))

@[simp] theorem clear_append {a b : String} : Clear (a ++ b) ↔ Clear a ∧ Clear b := by
  rw [Clear, String.toList_append, clearChars_append]
  rfl

theorem Clear.no_feed {text : String} (h : Clear text) : '\n' ∉ text.toList := fun feed =>
  absurd (h _ feed) (by decide)

/-- What holds of each character below U+0020 in turn holds of any. -/
theorem forall_control {P : Char → Prop} (table : ∀ n < 0x20, P (Char.ofNat n)) {c : Char} (control : c.toNat < 0x20) :
    P c := by
  have here := table c.toNat control
  rwa [Char.ofNat_toNat] at here

/-- A character of a class that has none of these is no such character. -/
theorem clear_of_class {p : Char → Bool} (table : ∀ n < 0x20, p (Char.ofNat n) = false) {c : Char} (h : p c) :
    0x20 ≤ c.toNat := by
  by_contra control
  have excluded := forall_control (P := fun c => p c = false) table (Nat.lt_of_not_le control)
  rw [h] at excluded
  cases excluded

theorem toString_clear (n : Nat) : Clear (toString n) := by
  intro c hc
  rw [Nat.toString_eq_repr, Nat.toList_repr] at hc
  exact clear_of_class (p := Char.isDigit) (by decide) (Nat.isDigit_of_mem_toDigits (by decide) (by decide) hc)

/-! ## Keys between quotes -/

theorem quotedChar_clear (c : Char) : ClearChars (quotedChar c) := by
  by_cases control : c.toNat < 0x20
  · have table : ∀ n < 0x20, ClearChars (quotedChar (Char.ofNat n)) := by decide +kernel
    exact forall_control (P := fun c => ClearChars (quotedChar c)) table control
  · unfold quotedChar
    split
    iterate 6 decide
    split
    · have table : ∀ d < 16, 0x20 ≤ (Nat.digitChar d).toNat := by decide
      have digits : ClearChars (Nat.toDigits 16 c.toNat) := by
        intro x digit
        obtain ⟨d, small, rfl⟩ := Swift.StringLiteral.mem_toDigits digit
        exact table d small
      simp [codePointEscape, digits]
    · simpa using control

theorem quoted_clear (s : String) : Clear (quoted s) := by
  simp [Clear, quoted, quotedChar_clear]

/-! ## Paths -/

theorem escapeChar_clear (c : Char) : ClearChars (Json.StringLiteral.escapeChar c) := by
  by_cases control : c.toNat < 0x20
  · have table : ∀ n < 0x20, ClearChars (Json.StringLiteral.escapeChar (Char.ofNat n)) := by decide
    exact forall_control (P := fun c => ClearChars (Json.StringLiteral.escapeChar c)) table control
  · unfold Json.StringLiteral.escapeChar
    split
    iterate 7 decide
    rw [if_neg control]
    simpa using control

/-- A key goes into a path as it is only if it is spelled with plain characters. -/
theorem step_clear (step : Step) : ClearChars step.text := by
  cases step with
  | key k =>
    rw [Step.text]
    split
    · rename_i plain
      simp only [isPlainKey, Bool.and_eq_true] at plain
      have spelled : ClearChars k.toList := fun c hc =>
        clear_of_class (p := isPlainChar) (by decide) (List.all_eq_true.mp plain.2 c hc)
      simpa using spelled
    · simp [Json.StringLiteral.write, escapeChar_clear]
  | index i =>
    have digits : ClearChars (toString i).toList := toString_clear i
    simpa [Step.text] using digits

theorem path_clear {p : Path} (root : Clear p.root) : Clear p.text := by
  have first : ClearChars p.root.toList := root
  simp [Clear, Path.text, first, step_clear]

theorem visit_clear {v : Value} {c : Visit} (h : c ∈ v.visits .top) : Clear c.path.text := by
  obtain ⟨steps, -, place⟩ := Json.reaches_of_mem_visits h
  refine path_clear ?_
  rw [place]
  exact (by decide : Clear "$")

/-! ## Names -/

theorem named_clear (c : Char) (named : isNameChar c) : 0x20 ≤ c.toNat :=
  clear_of_class (p := fun c => !Identifier.breaks c) (by decide) (by simp [Identifier.breaks_of_isNameChar named])

theorem stray_clear : ∀ c ∈ strayLetters, ClearChars (form .pascal c) := by
  have strays : strayLetters.all fun c => decide (ClearChars (form .pascal c)) := by decide +kernel
  intro c stray
  exact of_decide_eq_true (List.all_eq_true.mp strays c stray)

theorem kind_clear (k : Json.Kind) : Clear k.name := by cases k <;> decide

/-- The texts that a message shows as they are. -/
def Cause.names : Cause → List String
  | .emptyArray | .nullFirstElement => []
  | .mixedArray _ first found => [first, found]
  | .emptyIdentifier _ fallback => [fallback]
  | .collision _ wanted chosen => [wanted, chosen]

/-- With clear names the message is clear, whatever the key. -/
theorem message_clear {cause : Cause} (names : ∀ name ∈ cause.names, Clear name) : Clear cause.message := by
  cases cause with
  | emptyArray | nullFirstElement => decide
  | mixedArray index first found =>
    simp only [Cause.names, List.forall_mem_cons] at names
    obtain ⟨shown, other, -⟩ := names
    show Clear ("element " ++ toString index ++ " is " ++ found ++ " but element 0 is " ++ first ++
      "; typed from element 0")
    simp only [clear_append]
    refine ⟨⟨⟨⟨⟨⟨?_, toString_clear index⟩, ?_⟩, other⟩, ?_⟩, shown⟩, ?_⟩ <;> decide
  | emptyIdentifier key fallback =>
    have shown := names fallback (List.mem_singleton.mpr rfl)
    show Clear ("key " ++ quoted key ++ " has no usable identifier characters, using `" ++ fallback ++ "`")
    simp only [clear_append]
    refine ⟨⟨⟨⟨?_, quoted_clear key⟩, ?_⟩, shown⟩, ?_⟩ <;> decide
  | collision key wanted chosen =>
    simp only [Cause.names, List.forall_mem_cons] at names
    obtain ⟨shown, other, -⟩ := names
    show Clear ("key " ++ quoted key ++ " derives `" ++ wanted ++ "`, already taken; using `" ++ chosen ++ "`")
    simp only [clear_append]
    refine ⟨⟨⟨⟨⟨⟨?_, quoted_clear key⟩, ?_⟩, shown⟩, ?_⟩, other⟩, ?_⟩ <;> decide

theorem arrayWarnings_names_clear {path : Path} {items : List Value} {w : Warning} (h : w ∈ arrayWarnings path items) :
    ∀ name ∈ w.cause.names, Clear name := by
  cases items with
  | nil =>
    rw [List.mem_singleton.mp h]
    exact nofun
  | cons first rest =>
    rw [arrayWarnings_cons] at h
    obtain ⟨cause, hc, rfl⟩ := List.mem_map.mp h
    rcases List.mem_append.mp hc with null | mixed
    · split at null
      · rw [List.mem_singleton.mp null]
        exact nofun
      · cases null
    · obtain ⟨d, -, rfl⟩ := List.mem_map.mp mixed
      simp only [Cause.names, List.forall_mem_cons]
      exact ⟨kind_clear _, kind_clear _, nofun⟩

/-- A scope reports of names that it was asked for and that it gives. -/
theorem answer_names_clear {s : Scope} {r : Scope.Request} {w : Warning} (h : w ∈ (s.answer r).warnings) :
    ∀ name ∈ w.cause.names, Clear name := by
  have wanted : Clear r.wanted := by
    rw [← Scope.ofKey_wanted]
    exact wished_chars named_clear stray_clear r.style r.key r.position
  have given : Clear (s.answer r).name := given_chars named_clear stray_clear ⟨s, r.key, r.position, rfl⟩
  rw [Scope.answer_warnings] at h
  rcases List.mem_append.mp h with nothing | renamed
  · split at nothing
    · rw [List.mem_singleton.mp nothing]
      simp only [Cause.names, List.forall_mem_cons]
      exact ⟨wanted, nofun⟩
    · cases nothing
  · split at renamed
    · cases renamed
    · rw [List.mem_singleton.mp renamed]
      simp only [Cause.names, List.forall_mem_cons]
      exact ⟨wanted, given, nofun⟩

theorem raised_names_clear {c : Visit} {w : Warning} (h : Raised c w) : ∀ name ∈ w.cause.names, Clear name := by
  cases h with
  | array _ h => exact arrayWarnings_names_clear h
  | @name naming style h =>
    simp only [Naming.claim, Report.warn] at h
    exact answer_names_clear (s := naming.scope) (r := ⟨style, naming.key, naming.position, c.path.text⟩) h

/-! ## Samples -/

theorem ofSample_warning_clear {limit : Nat} {name : String} {entries : List (String × Value)} {w : Warning}
    (h : w ∈ (Declaration.ofSample limit name entries).warnings) : Clear w.message := by
  obtain ⟨c, visited, raised⟩ := ofSample_raised h
  simp only [Warning.message, clear_append, raised.path]
  refine ⟨⟨visit_clear visited, ?_⟩, message_clear (raised_names_clear raised)⟩
  decide

theorem ofSample_failure_clear {limit : Nat} {name : String} {entries : List (String × Value)} {e : DepthExceeded}
    (h : (Declaration.ofSample limit name entries).outcome = .error e) : Clear e.message := by
  obtain ⟨v, visited⟩ := ofSample_failure_visited h
  have place : Clear e.path.text := visit_clear (c := ⟨e.path, v⟩) visited
  show Clear ("nesting at " ++ e.path.text ++ " exceeds the depth limit of " ++ toString e.limit)
  simp only [clear_append]
  refine ⟨⟨⟨?_, place⟩, ?_⟩, toString_clear e.limit⟩ <;> decide

/-! ## Lines -/

/-- Lines that are told one after the other are read as such. What is told ends with the last. -/
theorem splitOn_lines {lines : List String} (plain : ∀ l ∈ lines, '\n' ∉ l.toList) :
    (String.join (lines.map (· ++ "\n"))).toList.splitOn '\n' = lines.map String.toList ++ [[]] := by
  induction lines with
  | nil => rfl
  | cons l rest ih =>
    have feed : (String.join ((l :: rest).map (· ++ "\n"))).toList =
        l.toList ++ '\n' :: (String.join (rest.map (· ++ "\n"))).toList := by simp
    have single : l.toList.splitOnP (· == '\n') = [l.toList] :=
      List.splitOnP_eq_singleton fun c hc => by
        have apart : c ≠ '\n' := fun same => plain l (List.mem_cons_self ..) (same ▸ hc)
        simpa using apart
    have others := ih fun k hk => plain k (List.mem_cons_of_mem _ hk)
    rw [List.splitOn] at others ⊢
    rw [feed, List.splitOnP_append_cons _ _ (by simp), single, others]
    rfl

namespace Command

theorem label_plain (label : Label) (color : Bool) : '\n' ∉ (label.text color).toList := by
  cases label <;> cases color <;> decide

/-- What is told of clear warnings is a line for each. -/
theorem told_lines (color : Bool) {warnings : List Warning} (clear : ∀ w ∈ warnings, Clear w.message) :
    (Session.told color warnings).toList.splitOn '\n' =
      (warnings.map fun w => Label.warning.text color ++ " " ++ w.message).map String.toList ++ [[]] := by
  have ended : Session.told color warnings =
      String.join ((warnings.map fun w => Label.warning.text color ++ " " ++ w.message).map (· ++ "\n")) := by
    rw [List.map_map]
    rfl
  rw [ended]
  refine splitOn_lines fun line told => ?_
  obtain ⟨w, hw, rfl⟩ := List.mem_map.mp told
  simp only [String.toList_append, List.mem_append, not_or]
  exact ⟨⟨label_plain _ color, by decide⟩, (clear w hw).no_feed⟩

/-- The warnings of an answer are those of a sample. -/
theorem answer_sampled {a : Arguments} {text : String} {answer : Answer} (h : a.answer text = .ok answer) :
    ∃ limit name entries, answer.warnings = (Declaration.ofSample limit name entries).warnings := by
  obtain ⟨c, converted, rfl⟩ := Arguments.answer_ok_iff.mp h
  obtain ⟨settings, -, converted⟩ := Arguments.conversion_ok_iff.mp converted
  rw [Conversion.ofText] at converted
  split at converted
  · obtain ⟨entries, root, -, -, rfl⟩ := Conversion.ofDocument_ok_iff.mp converted
    exact ⟨settings.maxDepth, settings.rootName, entries, rfl⟩
  · cases converted

/-- No message of a sample holds a character below U+0020, be it a warning or that the depth
    limit is passed. So a run that finds an answer tells as many lines as there are warnings,
    one for each, and more only if the delivery fails. -/
theorem warnings_one_line :
    (∀ (limit : Nat) (name : String) (entries : List (String × Value)),
      (∀ w ∈ (Declaration.ofSample limit name entries).warnings, Clear w.message) ∧
        ∀ e, (Declaration.ofSample limit name entries).outcome = .error e → Clear e.message) ∧
    ∀ (s : Session) (color : Bool) (words : List String) (a : Arguments) (answer : Answer),
      Arguments.ofWords words = .ok a → s.answer a = .ok answer →
        ∃ status after trouble, s.run color words = (status, after) ∧
          after.complaints = s.complaints ++ Session.told color answer.warnings ++ trouble ∧
          (status = 0 → trouble = "") ∧
          (Session.told color answer.warnings).toList.splitOn '\n' =
            (answer.warnings.map fun w => Label.warning.text color ++ " " ++ w.message).map String.toList ++ [[]] := by
  refine ⟨fun limit name entries => ⟨fun w => ofSample_warning_clear, fun e => ofSample_failure_clear⟩, ?_⟩
  intro s color words a answer h answered
  obtain ⟨text, -, found⟩ := Session.answer_ok_iff.mp answered
  obtain ⟨limit, name, entries, sampled⟩ := answer_sampled found
  have clear : ∀ w ∈ answer.warnings, Clear w.message := fun w hw => ofSample_warning_clear (sampled ▸ hw)
  have lines := told_lines color clear
  obtain ⟨status, after, run, ⟨_, complaints⟩ | ⟨failure, failed, complaints⟩⟩ := s.run_complaints color h answered
  · exact ⟨status, after, "", run, by rw [complaints, String.append_empty], fun _ => rfl, lines⟩
  · refine ⟨status, after, _, run, complaints, ?_, lines⟩
    rw [failed]
    nofun

def scribble : List (String × Value) :=
  [("a\nb", .object [("\r", .array [.null])]), ("a\tb", .bool true)]

def scribbleWarnings : List Warning :=
  [⟨"$[\"a\\nb\"][\"\\r\"]", .emptyIdentifier "\r" "field1"⟩, ⟨"$[\"a\\nb\"][\"\\r\"]", .nullFirstElement⟩,
   ⟨"$[\"a\\tb\"]", .collision "a\tb" "aB" "aB2"⟩]

def scribbleLines : List String :=
  ["warning: $[\"a\\nb\"][\"\\r\"]: key \"\\r\" has no usable identifier characters, using `field1`",
   "warning: $[\"a\\nb\"][\"\\r\"]: first array element is null, element type defaults to `Any?`",
   "warning: $[\"a\\tb\"]: key \"a\\tb\" derives `aB`, already taken; using `aB2`"]

def unspecified : Arguments := ⟨none, none, none, none, false⟩

theorem scribble_told :
    (∃ e, (Declaration.ofSample 1 "Scribble" scribble).outcome = .error e ∧
      e.message = "nesting at $[\"a\\nb\"][\"\\r\"] exceeds the depth limit of 1" ∧ Clear e.message) ∧
    ∃ answer after, Arguments.ofWords [] = .ok unspecified ∧
      (Session.start ⟨[], []⟩ (Value.object scribble).compact.toUTF8).answer unspecified = .ok answer ∧
      (Session.start ⟨[], []⟩ (Value.object scribble).compact.toUTF8).run false [] = (0, after) ∧
      after.complaints.toList.splitOn '\n' = scribbleLines.map String.toList ++ [[]] ∧
      ∀ w ∈ (Declaration.ofSample 128 "JsonDecodable" scribble).warnings, Clear w.message := by
  obtain ⟨clear, told⟩ := warnings_one_line
  have deep : (Declaration.ofSample 1 "Scribble" scribble).outcome = .error ⟨1, ⟨"$", [.key "a\nb", .key "\r"]⟩⟩ := by
    rfl
  refine ⟨⟨_, deep, by decide, (clear 1 "Scribble" scribble).2 _ deep⟩, ?_⟩
  have read : Value.ofText? (Value.object scribble).compact = .ok (.object scribble) :=
    (Json.ofText?_compact_iff (by decide) (by decide)).mpr (by rfl)
  obtain ⟨c, converted, warnings⟩ : ∃ c, Conversion.ofDocument .standard (.object scribble) = .ok c ∧
      c.warnings = scribbleWarnings := ⟨_, rfl, rfl⟩
  have set : unspecified.settings = .ok .standard := by rfl
  have found : unspecified.answer (Value.object scribble).compact = .ok ⟨c.source, c.warnings⟩ :=
    Arguments.answer_of_read set read converted
  have answered : (Session.start ⟨[], []⟩ (Value.object scribble).compact.toUTF8).answer unspecified =
      .ok ⟨c.source, c.warnings⟩ := Session.answer_ok_iff.mpr ⟨_, Session.text_input .., found⟩
  obtain ⟨status, after, trouble, run, complaints, quiet, lines⟩ := told _ false [] unspecified _ rfl answered
  have done : status = 0 := by
    rw [Session.run_eq _ false (a := unspecified) rfl, Session.perform_eq, answered] at run
    exact (Prod.mk.inj run).1.symm
  have spoken : after.complaints = Session.told false c.warnings := by
    rw [complaints, quiet done, String.append_empty]
    exact String.empty_append
  refine ⟨_, after, rfl, answered, done ▸ run, ?_, (clear 128 "JsonDecodable" scribble).1⟩
  have texts : scribbleWarnings.map (fun w => Label.warning.text false ++ " " ++ w.message) = scribbleLines := by decide
  rw [spoken, lines, ← texts, ← warnings]

end Command

end Decodables
