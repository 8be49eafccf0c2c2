/-
  Decodables.Proofs.PathReading — a path names one place.

  The text of a path is read back step by step. A plain key goes up to the first character
  that no plain key has, a quoted one up to its own closing quote, and an index up to the
  first character that is no digit. What follows a step is another one or nothing, and a step
  starts with a dot or a bracket, so it is clear where a plain key ends. Keys that are empty,
  look like an index or hold pieces of a path do not matter.

  Proved, over every text to start from and all steps:
  - `Step.read_text`: a step is read as it was written, and reading stops behind it.
  - `steps_text_inj`, `Path.text_inj`: so the text tells the steps.
  - `sampleType_raised`, `sampleMembers_raised`: what a sample reports, it reports of an array
    or of a name where it visits a value, also if it fails later.
  - `paths_unambiguous`: two paths from one root are written alike just if they take the same
    steps, and the path of a warning or of a failure names one place.
-/

import Decodables.Proofs.DepthFailure
import Decodables.Proofs.Json.StringReading

namespace Decodables

open Json (Value Reaches entryVisits found mem_visits_iff visits_distinct)

/-! ## Reading a step -/

def isPlainChar (c : Char) : Bool := c.isAlphanum || c == '_'

namespace Step

def read : List Char → Option (Step × List Char)
  | '.' :: rest => some (.key (String.ofList (rest.takeWhile isPlainChar)), rest.dropWhile isPlainChar)
  | '[' :: '"' :: rest =>
    match found (Json.StringLiteral.read rest) with
    | some (k, ']' :: behind) => some (.key k, behind)
    | _ => none
  | '[' :: rest =>
    match rest.dropWhile Char.isDigit with
    | ']' :: behind => some (.index (Nat.ofDigitChars 10 (rest.takeWhile Char.isDigit) 0), behind)
    | _ => none
  | _ => none

def Ends (rest : List Char) : Prop := ∀ c ∈ rest.head?, isPlainChar c = false

theorem read_plain {k : List Char} (plain : ∀ c ∈ k, isPlainChar c) {rest : List Char} (ends : Ends rest) :
    read ('.' :: (k ++ rest)) = some (.key (String.ofList k), rest) := by
  have stops : rest.takeWhile isPlainChar = [] ∧ rest.dropWhile isPlainChar = rest := by
    cases rest with
    | nil => simp
    | cons c rest =>
      have stop := ends c rfl
      simp [stop]
  simp [read, List.takeWhile_append_of_pos plain, List.dropWhile_append_of_pos plain, stops]

theorem read_quoted (k rest : List Char) :
    read ('[' :: (Json.StringLiteral.write k ++ ']' :: rest)) = some (.key (String.ofList k), rest) := by
  have literal := Json.StringLiteral.found_read_write k (']' :: rest)
  simp [read, Json.StringLiteral.write, literal]

theorem read_index (i : Nat) (rest : List Char) :
    read ('[' :: ((toString i).toList ++ ']' :: rest)) = some (.index i, rest) := by
  have spelled : (toString i).toList = Nat.toDigits 10 i := by rw [Nat.toString_eq_repr, Nat.toList_repr]
  have digits : ∀ c ∈ Nat.toDigits 10 i, c.isDigit = true := fun c hc =>
    Nat.isDigit_of_mem_toDigits (by decide) (by decide) hc
  have bracket : Char.isDigit ']' = false := by decide
  -- an index starts with a digit, so it is not taken for a quoted key
  obtain ⟨d, more, first⟩ := List.exists_cons_of_ne_nil (Nat.toDigits_ne_nil (n := i) (b := 10))
  have unquoted : ∀ t, Nat.toDigits 10 i ++ ']' :: rest ≠ '"' :: t := by
    intro t quoted
    rw [first, List.cons_append, List.cons.injEq] at quoted
    have digit := digits d (by simp [first])
    rw [quoted.1] at digit
    exact absurd digit (by decide)
  rw [spelled, read.eq_3 _ unquoted, List.dropWhile_append_of_pos digits, List.takeWhile_append_of_pos digits]
  simp [bracket, Nat.ofDigitChars_ten_toDigits]

/-- A step is read as it was written, and what follows it is left. -/
theorem read_text (step : Step) {rest : List Char} (ends : Ends rest) : read (step.text ++ rest) = some (step, rest) := by
  cases step with
  | index i => simpa [text] using read_index i rest
  | key k =>
    by_cases plain : isPlainKey k.toList = true
    · have letters : ∀ c ∈ k.toList, isPlainChar c := by
        simp only [isPlainKey, Bool.and_eq_true] at plain
        exact List.all_eq_true.mp plain.2
      simpa [text, plain] using read_plain letters ends
    · simpa [text, plain] using read_quoted k.toList rest

/-- A step starts with a dot or a bracket, which no plain key holds. -/
theorem ends_text (step : Step) (rest : List Char) : Ends (step.text ++ rest) := by
  have head : (step.text ++ rest).head? = some '.' ∨ (step.text ++ rest).head? = some '[' := by
    cases step with
    | index i => simp [text]
    | key k => by_cases plain : isPlainKey k.toList = true <;> simp [text, plain]
  intro c hc
  rcases head with dot | bracket
  · rw [dot] at hc
    cases hc
    decide
  · rw [bracket] at hc
    cases hc
    decide

theorem ends_steps (steps : List Step) : Ends (steps.flatMap text) := by
  cases steps with
  | nil => intro c hc; cases hc
  | cons step steps => rw [List.flatMap_cons]; exact ends_text step _

end Step

/-! ## Reading a path -/

theorem steps_text_inj {s t : List Step} : s.flatMap Step.text = t.flatMap Step.text ↔ s = t := by
  refine ⟨fun h => ?_, fun h => by rw [h]⟩
  induction s generalizing t with
  | nil =>
    cases t with
    | nil => rfl
    | cons b t =>
      have read := Step.read_text b (Step.ends_steps t)
      rw [← List.flatMap_cons, ← h] at read
      cases read
  | cons a s ih =>
    have first := Step.read_text a (Step.ends_steps s)
    rw [← List.flatMap_cons, h] at first
    cases t with
    | nil => cases first
    | cons b t =>
      rw [List.flatMap_cons, Step.read_text b (Step.ends_steps t), Option.some.injEq, Prod.mk.injEq] at first
      rw [first.1, ih first.2.symm]

namespace Path

/-- Paths from one root that are written alike are one path. -/
theorem text_inj {p q : Path} (root : p.root = q.root) : p.text = q.text ↔ p = q := by
  refine ⟨fun h => ?_, fun h => by rw [h]⟩
  obtain ⟨start, s⟩ := p
  obtain ⟨start', t⟩ := q
  obtain rfl : start = start' := root
  have letters := congrArg String.toList h
  simp only [text, String.toList_ofList] at letters
  rw [steps_text_inj.mp (List.append_cancel_left letters)]

def extend (p : Path) : Step → Path
  | .key k => p.key k
  | .index i => p.index i

theorem foldl_extend (p : Path) (steps : List Step) : steps.foldl extend p = p.follow steps := by
  induction steps generalizing p with
  | nil => simp
  | cons step steps ih =>
    cases step with
    | key k => simp only [List.foldl_cons, extend, ih, key_follow]
    | index i => simp only [List.foldl_cons, extend, ih, index_follow]

theorem follow_text_inj (p : Path) {s t : List Step} : (p.follow s).text = (p.follow t).text ↔ s = t := by
  rw [text_inj (p := p.follow s) (q := p.follow t) rfl, follow_inj]

end Path

/-! ## Places of warnings -/

theorem Report.mem_bind_warnings {α β : Type} {r : Report α} {f : α → Report β} {w : Warning}
    (h : w ∈ (r >>= f).warnings) : w ∈ r.warnings ∨ ∃ a, r.outcome = .ok a ∧ w ∈ (f a).warnings := by
  obtain ⟨warnings, outcome⟩ := r
  cases outcome with
  | error e => exact .inl h
  | ok a =>
    rcases List.mem_append.mp h with first | later
    · exact .inl first
    · exact .inr ⟨a, rfl, later⟩

theorem Report.guardDepth_warnings (limit : Nat) (path : Path) : (Report.guardDepth limit path).warnings = [] := by
  unfold Report.guardDepth
  split <;> rfl

theorem Naming.claim_path {n : Naming} {style : Identifier.Style} {path : Path} {w : Warning}
    (h : w ∈ (n.claim style path).warnings) : w.path = path.text := by
  simp only [claim, Scope.claim, Report.warn, List.mem_map] at h
  obtain ⟨cause, _, rfl⟩ := h
  rfl

theorem arrayWarnings_path {path : Path} {items : List Value} {w : Warning} (h : w ∈ arrayWarnings path items) :
    w.path = path.text := by
  cases items with
  | nil => rw [List.mem_singleton.mp h]
  | cons first rest =>
    obtain ⟨cause, _, rfl⟩ := List.mem_map.mp h
    rfl

/-- The warning comes of the visit: it is of the array that is visited, or of a name that some
    scope gives there. -/
inductive Raised (c : Visit) (w : Warning) : Prop
  | array {items : List Value} : c.value = .array items → w ∈ arrayWarnings c.path items → Raised c w
  | name {naming : Naming} {style : Identifier.Style} : w ∈ (naming.claim style c.path).warnings → Raised c w

theorem Raised.path {c : Visit} {w : Warning} (h : Raised c w) : w.path = c.path.text := by
  cases h with
  | array _ h => exact arrayWarnings_path h
  | name h => exact Naming.claim_path h

def Warned (visits : List Visit) (w : Warning) : Prop := ∃ c ∈ visits, w.path = c.path.text

theorem Json.Value.mem_visits_self (path : Path) (v : Value) : ⟨path, v⟩ ∈ v.visits path := by
  obtain ⟨others, head⟩ := v.visits_head path
  rw [head]
  exact List.mem_cons_self ..

variable {limit : Nat}

mutual

theorem sampleType_raised {naming : Naming} {path : Path} {w : Warning} :
    (v : Value) → w ∈ (sampleType limit naming path v).warnings → ∃ c ∈ v.visits path, Raised c w
  | .null | .bool _ | .number _ | .string _ => nofun
  | .array items => fun h => by
    simp only [sampleType] at h
    rcases Report.mem_bind_warnings h with guarded | ⟨_, _, h⟩
    · rw [Report.guardDepth_warnings] at guarded
      cases guarded
    rcases Report.mem_bind_warnings h with inside | ⟨_, _, nothing⟩
    · match items with
      | [] => exact ⟨_, (Value.array []).mem_visits_self path, .array rfl inside⟩
      | first :: rest =>
        simp only [sampleElement] at inside
        rcases Report.mem_bind_warnings inside with reported | ⟨_, _, below⟩
        · exact ⟨_, (Value.array (first :: rest)).mem_visits_self path, .array rfl reported⟩
        · rw [Value.visits]
          obtain ⟨c, hc, raised⟩ := sampleType_raised first below
          exact ⟨c, List.mem_cons_of_mem _ hc, raised⟩
    · cases nothing
  | .object entries => fun h => by
    simp only [sampleType] at h
    rcases Report.mem_bind_warnings h with guarded | ⟨_, _, h⟩
    · rw [Report.guardDepth_warnings] at guarded
      cases guarded
    rcases Report.mem_bind_warnings h with named | ⟨_, _, h⟩
    · exact ⟨_, (Value.object entries).mem_visits_self path, .name named⟩
    rcases Report.mem_bind_warnings h with below | ⟨_, _, nothing⟩
    · rw [Value.visits]
      obtain ⟨c, hc, raised⟩ := sampleMembers_raised entries below
      exact ⟨c, List.mem_cons_of_mem _ hc, raised⟩
    · cases nothing

theorem sampleMembers_raised {scope : Scope} {position : Nat} {path : Path} {w : Warning} :
    (entries : List (String × Value)) → w ∈ (sampleMembers limit scope position path entries).warnings →
      ∃ c ∈ entryVisits path entries, Raised c w
  | [] => nofun
  | (key, value) :: rest => fun h => by
    rw [entryVisits]
    simp only [sampleMembers] at h
    rcases Report.mem_bind_warnings h with named | ⟨_, _, h⟩
    · exact ⟨_, List.mem_append_left _ (value.mem_visits_self (path.key key)), .name named⟩
    rcases Report.mem_bind_warnings h with inside | ⟨_, _, h⟩
    · obtain ⟨c, hc, raised⟩ := sampleType_raised value inside
      exact ⟨c, List.mem_append_left _ hc, raised⟩
    rcases Report.mem_bind_warnings h with later | ⟨_, _, nothing⟩
    · obtain ⟨c, hc, raised⟩ := sampleMembers_raised rest later
      exact ⟨c, List.mem_append_right _ hc, raised⟩
    · cases nothing

end

theorem ofSample_raised {name : String} {entries : List (String × Value)} {w : Warning}
    (h : w ∈ (Declaration.ofSample limit name entries).warnings) : ∃ c ∈ (Value.object entries).visits .top, Raised c w := by
  rw [Value.visits]
  rcases Report.mem_bind_warnings h with below | ⟨_, _, nothing⟩
  · obtain ⟨c, hc, raised⟩ := sampleMembers_raised entries below
    exact ⟨c, List.mem_cons_of_mem _ hc, raised⟩
  · cases nothing

theorem ofSample_warned {name : String} {entries : List (String × Value)} {w : Warning}
    (h : w ∈ (Declaration.ofSample limit name entries).warnings) : Warned ((Value.object entries).visits .top) w := by
  obtain ⟨c, hc, raised⟩ := ofSample_raised h
  exact ⟨c, hc, raised.path⟩

theorem ofSample_failure_visited {name : String} {entries : List (String × Value)} {e : DepthExceeded}
    (h : (Declaration.ofSample limit name entries).outcome = .error e) :
    ∃ v, ⟨e.path, v⟩ ∈ (Value.object entries).visits .top := by
  rw [← Report.failure?_eq_some, ofSample_failure] at h
  obtain ⟨-, before, v, after, parts, -⟩ := firstBeyond_eq_some_iff.mp h
  exact ⟨v, by simp [parts]⟩

/-! ## Places in documents -/

/-- The text is the path of one place in the value: of the steps that lead there, and of no
    others, and there is one value there. -/
def NamesOnePlace (v : Value) (text : String) : Prop :=
  ∃ steps w, Reaches v steps w ∧ (∀ others, (others.foldl Path.extend .top).text = text ↔ others = steps) ∧
    ∀ w', Reaches v steps w' → w' = w

theorem namesOnePlace_of_visited {v : Value} (distinct : v.keysDistinct) {c : Visit} (hc : c ∈ v.visits .top) :
    NamesOnePlace v c.path.text := by
  obtain ⟨steps, reaches, place⟩ := mem_visits_iff.mp hc
  refine ⟨steps, c.value, reaches, fun others => ?_, fun w' reaches' => ?_⟩
  · rw [Path.foldl_extend, place, Path.follow_text_inj]
  · have hc' : (⟨c.path, w'⟩ : Visit) ∈ v.visits .top := mem_visits_iff.mpr ⟨steps, reaches', place⟩
    have places := visits_distinct distinct .top
    have same : (⟨c.path, w'⟩ : Visit) = c := List.inj_on_of_nodup_map places hc' hc rfl
    exact congrArg Visit.value same

/-- From one root the steps that are taken can be told from the text of the path, whatever the
    keys. So each warning of a sample, and its failure if it fails, has a path that names one
    place in the document. -/
theorem paths_unambiguous :
    (∀ (root : String) (s t : List Step),
        (s.foldl Path.extend (.ofRoot root)).text = (t.foldl Path.extend (.ofRoot root)).text ↔ s = t) ∧
      ∀ limit name entries, (Value.object entries).keysDistinct →
        (∀ w ∈ (Declaration.ofSample limit name entries).warnings, NamesOnePlace (.object entries) w.path) ∧
          ∀ e, (Declaration.ofSample limit name entries).outcome = .error e →
            NamesOnePlace (.object entries) e.path.text := by
  refine ⟨fun root s t => ?_, fun limit name entries distinct => ⟨fun w hw => ?_, fun e failed => ?_⟩⟩
  · rw [Path.foldl_extend, Path.foldl_extend, Path.follow_text_inj]
  · obtain ⟨c, hc, place⟩ := ofSample_warned hw
    rw [place]
    exact namesOnePlace_of_visited distinct hc
  · obtain ⟨v, visited⟩ := ofSample_failure_visited failed
    exact namesOnePlace_of_visited (c := ⟨e.path, v⟩) distinct visited

def maze : List (String × Value) :=
  [("a", .array [.object [("", .array [])]]), ("a[0]", .object [("", .array [])]), ("a\"][0", .array []),
   ("0", .array [.array [.array [.array []]]])]

def mazeWarnings : List Warning :=
  [⟨"$.a[0][\"\"]", .emptyIdentifier "" "field1"⟩, ⟨"$.a[0][\"\"]", .emptyArray⟩,
   ⟨"$[\"a[0]\"][\"\"]", .emptyIdentifier "" "field1"⟩, ⟨"$[\"a[0]\"][\"\"]", .emptyArray⟩,
   ⟨"$[\"a\\\"][0\"]", .collision "a\"][0" "a0" "a02"⟩, ⟨"$[\"a\\\"][0\"]", .emptyArray⟩]

def mazeEnd : Path := Path.top.follow [.key "0", .index 0, .index 0, .index 0]

theorem maze_unambiguous :
    (Value.object maze).keysDistinct ∧ Declaration.ofSample 3 "Maze" maze = ⟨mazeWarnings, .error ⟨3, mazeEnd⟩⟩ ∧
      NamesOnePlace (.object maze) "$[\"0\"][0][0][0]" ∧ ∀ w ∈ mazeWarnings, NamesOnePlace (.object maze) w.path := by
  have distinct : (Value.object maze).keysDistinct := by decide
  have sampled : Declaration.ofSample 3 "Maze" maze = ⟨mazeWarnings, .error ⟨3, mazeEnd⟩⟩ := by rfl
  have place : mazeEnd.text = "$[\"0\"][0][0][0]" := by rfl
  obtain ⟨warned, failed⟩ := paths_unambiguous.2 3 "Maze" maze distinct
  rw [sampled] at warned failed
  have deep := failed ⟨3, mazeEnd⟩ rfl
  rw [place] at deep
  exact ⟨distinct, sampled, deep, warned⟩

end Decodables
