/-
  Decodables.Proofs.Json.ReaderSteps — one step of each reader of a document.

  A reader passes over white space and looks at one character. That tells what it reads
  next, or that it gives up. The loops over elements and entries go round once for each
  comma.

  Proved, over every text:
  - `value_cons`: the first character of a value tells what it is.
  - `array_open`, `elements_comma`, `object_open`, `entries_comma`: where a reader goes on
    behind an opening bracket or a comma, and that it fails with what it reads there.
  - `object_marked`, `spelledNumber_close`: a marked object is read as a number.
-/

import Decodables.Json.Document
import Decodables.Proofs.Json.NumeralReading

namespace Decodables.Json

/-! ## White space -/

theorem skipSpace_blank {blank : List Char} (h : ∀ c ∈ blank, isSpace c) {c : Char} (hc : isSpace c = false)
    (r : List Char) : skipSpace (blank ++ c :: r) = c :: r := by
  rw [skipSpace, List.dropWhile_append_of_pos h, List.dropWhile_cons_of_neg (by simp [hc])]

theorem skipSpace_cons {c : Char} (hc : isSpace c = false) (r : List Char) : skipSpace (c :: r) = c :: r :=
  List.dropWhile_cons_of_neg (by simp [hc])

/-- White space does not go on with a numeral. -/
theorem goesOn_space {c : Char} (h : isSpace c) : Numeral.goesOn c = false := by
  simp only [isSpace, Bool.or_eq_true, beq_iff_eq] at h
  rcases h with ((rfl | rfl) | rfl) | rfl <;> rfl

theorem ends_cons {c : Char} (hc : Numeral.goesOn c = false) (r : List Char) : Numeral.Ends (c :: r) := by
  intro d hd
  cases hd
  exact hc

/-- White space, then a character that does not go on with a numeral. -/
theorem ends_blank {blank : List Char} (h : ∀ c ∈ blank, isSpace c) {c : Char} (hc : Numeral.goesOn c = false)
    (r : List Char) : Numeral.Ends (blank ++ c :: r) := by
  cases blank with
  | nil => exact ends_cons hc r
  | cons b blank => exact ends_cons (goesOn_space (h b (List.mem_cons_self ..))) _

namespace Document

/-! ## One step of each reader -/

section

variable (reader : Reader Value) {bound budget : Nat} {s r t rest : List Char} {c d : Char}

theorem value_nil (h : skipSpace s = []) : found (value budget s) = none := by
  unfold value
  split
  · rfl
  · rename_i some; rw [h] at some; cases some

/-- The first character of a value tells what it is. -/
theorem value_cons (h : skipSpace s = c :: r) : found (value budget s) =
    if c = '"' then (found (StringLiteral.read r)).map fun p => (.string p.1, p.2)
    else if c = '[' then
      match budget with
      | 0 => none
      | budget + 1 => found (array (value budget) r)
    else if c = '\x7b' then
      match budget with
      | 0 => none
      | budget + 1 => found (object (value budget) r)
    else if c = 'n' then found (word ['u', 'l', 'l'] .null r)
    else if c = 't' then found (word ['r', 'u', 'e'] (.bool true) r)
    else if c = 'f' then found (word ['a', 'l', 's', 'e'] (.bool false) r)
    else if c = '-' ∨ c.isDigit then (found (Numeral.read (c :: r))).map fun p => (.number (String.ofList p.1), p.2)
    else none := by
  unfold value
  split
  · rename_i none; rw [h] at none; cases none
  · rename_i some
    rw [h] at some
    cases some
    dsimp only
    by_cases quote : c = '"'
    · rw [if_pos quote, if_pos quote]
      exact found_map _ Value.string _
    rw [if_neg quote, if_neg quote]
    by_cases bracket : c = '['
    · rw [if_pos bracket, if_pos bracket]
      cases budget with
      | zero => rfl
      | succ budget => exact found_widen _ _
    rw [if_neg bracket, if_neg bracket]
    by_cases brace : c = '\x7b'
    · rw [if_pos brace, if_pos brace]
      cases budget with
      | zero => rfl
      | succ budget => exact found_widen _ _
    rw [if_neg brace, if_neg brace]
    by_cases n : c = 'n'
    · rw [if_pos n, if_pos n, found_widen]
    rw [if_neg n, if_neg n]
    by_cases t : c = 't'
    · rw [if_pos t, if_pos t, found_widen]
    rw [if_neg t, if_neg t]
    by_cases f : c = 'f'
    · rw [if_pos f, if_pos f, found_widen]
    rw [if_neg f, if_neg f]
    by_cases digit : c = '-' ∨ c.isDigit
    · rw [if_pos digit, if_pos digit, found_widen, numeral, found_map _ fun n => Value.number (String.ofList n)]
    · rw [if_neg digit, if_neg digit]
      rfl

theorem value_numeral (h : skipSpace s = c :: r) (hc : c = '-' ∨ c.isDigit) : found (value budget s) =
    (found (Numeral.read (c :: r))).map fun p => (.number (String.ofList p.1), p.2) := by
  have other : ∀ d, d ≠ '-' → d.isDigit = false → c ≠ d := fun d => Numeral.head_ne hc
  rw [value_cons h, if_neg (other '"' (by decide) rfl), if_neg (other '[' (by decide) rfl),
    if_neg (other '\x7b' (by decide) rfl), if_neg (other 'n' (by decide) rfl), if_neg (other 't' (by decide) rfl),
    if_neg (other 'f' (by decide) rfl), if_pos hc]

/-- A word goes on as long as the text has its letters. -/
theorem word_cons (l c : Char) (letters : List Char) (v : Value) (r : List Char) :
    found (word (l :: letters) v (c :: r)) = if c = l then found (word letters v r) else none := by
  show found (if c = l then _ else _) = _
  split
  · rw [found_widen]
  · rfl

theorem word_append (letters : List Char) (v : Value) (rest : List Char) :
    found (word letters v (letters ++ rest)) = some (v, rest) := by
  induction letters with
  | nil => rfl
  | cons l letters ih => rw [List.cons_append, word_cons, if_pos rfl, ih]

theorem colon_cons (r : List Char) : found (colon (':' :: r)) = some ((), r) := by
  unfold colon
  split
  · rename_i some; rw [skipSpace_cons rfl] at some; cases some; rfl
  · rename_i none; rw [skipSpace_cons rfl] at none; cases none
  · rename_i other _; exact absurd (skipSpace_cons rfl r) (other r)

/-! ### Arrays -/

theorem array_close (h : skipSpace s = ']' :: r) : found (array reader s) = some (.array [], r) := by
  unfold array
  split
  · rename_i none; rw [h] at none; cases none
  · rename_i some; rw [h] at some; cases some; rfl

theorem array_open (h : skipSpace s = c :: r) (hc : c ≠ ']') :
    (found (reader (c :: r)) = none → found (array reader s) = none) ∧
      ∀ v rest, found (reader (c :: r)) = some (v, rest) →
        ∃ le, found (array reader s) = found (elements reader s.length [v] rest le) := by
  unfold array
  split
  · rename_i none; rw [h] at none; cases none
  · rename_i some
    rw [h] at some
    cases some
    rw [if_neg hc]
    cases reader (c :: r) with
    | error fault => exact ⟨fun _ => rfl, fun _ _ hv => by cases hv⟩
    | ok v =>
      have shorter := v.shorter
      have skipped := length_skipSpace_le s
      rw [h] at skipped
      refine ⟨fun none => ?_, fun _ _ hv => ?_⟩
      · cases none
      · cases hv
        exact ⟨by omega, rfl⟩

theorem elements_close (done : List Value) (le : s.length ≤ bound) (h : skipSpace s = ']' :: r) :
    found (elements reader bound done s le) = some (.array done.reverse, r) := by
  rw [elements]
  split
  · rename_i none; rw [h] at none; cases none
  · rename_i some; rw [h] at some; cases some; rfl

theorem elements_comma (done : List Value) (le : s.length ≤ bound) (h : skipSpace s = ',' :: r)
    (h' : skipSpace r = d :: t) (hd : d ≠ ']') :
    (found (reader (d :: t)) = none → found (elements reader bound done s le) = none) ∧
      ∀ v rest, found (reader (d :: t)) = some (v, rest) →
        ∃ le', found (elements reader bound done s le) = found (elements reader bound (v :: done) rest le') := by
  rw [elements]
  split
  · rename_i none; rw [h] at none; cases none
  · rename_i some
    rw [h] at some
    cases some
    rw [if_neg (by decide), if_pos rfl]
    split
    · rename_i none; rw [h'] at none; cases none
    · rename_i some
      rw [h'] at some
      cases some
      rw [if_neg hd]
      cases reader (d :: t) with
      | error fault => exact ⟨fun _ => rfl, fun _ _ hv => by cases hv⟩
      | ok v =>
        have shorter := v.shorter
        have skipped := length_skipSpace_le s
        have skipped' := length_skipSpace_le r
        rw [h, List.length_cons] at skipped
        rw [h'] at skipped'
        refine ⟨fun none => ?_, fun _ _ hv => ?_⟩
        · cases none
        · cases hv
          exact ⟨by omega, rfl⟩

/-! ### Objects -/

/-- A key behind its opening quote, and what the reader finds behind its colon. -/
theorem entry_key (key : List Char) (t : List Char) :
    found (entry reader (key.flatMap StringLiteral.escapeChar ++ '"' :: ':' :: t)) =
      (found (reader t)).map fun p => ((String.ofList key, p.1), p.2) := by
  obtain ⟨_, named⟩ := found_eq_some_iff.mp (StringLiteral.found_read_write key (':' :: t))
  obtain ⟨_, separated⟩ := found_eq_some_iff.mp (colon_cons t)
  rw [entry, found_bind_ok named, found_bind_ok separated]
  cases reader t <;> rfl

theorem object_close (h : skipSpace s = '\x7d' :: r) : found (object reader s) = some (.object [], r) := by
  unfold object
  split
  · rename_i none; rw [h] at none; cases none
  · rename_i some; rw [h] at some; cases some; rfl

/-- A first key that is the marker makes the object a number. -/
theorem object_marked (h : skipSpace s = '"' :: (numberMarker.toList.flatMap StringLiteral.escapeChar ++ '"' :: ':' :: t)) :
    found (object reader s) = found (spelledNumber t) := by
  obtain ⟨_, named⟩ := found_eq_some_iff.mp (StringLiteral.found_read_write numberMarker.toList (':' :: t))
  obtain ⟨_, separated⟩ := found_eq_some_iff.mp (colon_cons t)
  unfold object
  split
  · rename_i none; rw [h] at none; cases none
  · rename_i some
    rw [h] at some
    cases some
    rw [if_neg (by decide), if_pos rfl]
    rw [found_bind_ok named, found_bind_ok separated, if_pos String.ofList_toList]
    exact found_widen _ _

theorem object_open {key : String} (hk : key ≠ numberMarker)
    (h : skipSpace s = '"' :: (key.toList.flatMap StringLiteral.escapeChar ++ '"' :: ':' :: t)) :
    (found (reader t) = none → found (object reader s) = none) ∧
      ∀ v rest, found (reader t) = some (v, rest) →
        ∃ le, found (object reader s) = found (entries reader s.length [(key, v)] rest le) := by
  obtain ⟨_, named⟩ := found_eq_some_iff.mp (StringLiteral.found_read_write key.toList (':' :: t))
  obtain ⟨_, separated⟩ := found_eq_some_iff.mp (colon_cons t)
  unfold object
  split
  · rename_i none; rw [h] at none; cases none
  · rename_i some
    have skipped := length_skipSpace_le s
    rw [h] at some skipped
    cases some
    rw [if_neg (by decide), if_pos rfl]
    rw [found_bind_ok named, found_bind_ok separated, if_neg (by rwa [String.ofList_toList])]
    cases reader t with
    | error fault => exact ⟨fun _ => rfl, fun _ _ hv => by cases hv⟩
    | ok v =>
      have shorter := v.shorter
      simp only [List.length_cons, List.length_append] at skipped
      refine ⟨fun none => ?_, fun _ _ hv => ?_⟩
      · cases none
      · cases hv
        exact ⟨by omega, by simp only [String.ofList_toList]; rfl⟩

theorem entries_close (done : List (String × Value)) (le : s.length ≤ bound) (h : skipSpace s = '\x7d' :: r) :
    found (entries reader bound done s le) = some (objectOf done, r) := by
  rw [entries]
  split
  · rename_i none; rw [h] at none; cases none
  · rename_i some; rw [h] at some; cases some; rfl

theorem entries_comma (done : List (String × Value)) (le : s.length ≤ bound) (h : skipSpace s = ',' :: r)
    (h' : skipSpace r = '"' :: t) :
    (found (entry reader t) = none → found (entries reader bound done s le) = none) ∧
      ∀ e rest, found (entry reader t) = some (e, rest) →
        ∃ le', found (entries reader bound done s le) = found (entries reader bound (e :: done) rest le') := by
  rw [entries]
  split
  · rename_i none; rw [h] at none; cases none
  · rename_i some
    rw [h] at some
    cases some
    rw [if_neg (by decide), if_pos rfl]
    split
    · rename_i none; rw [h'] at none; cases none
    · rename_i some
      rw [h'] at some
      cases some
      rw [if_pos rfl]
      cases entry reader t with
      | error fault => exact ⟨fun _ => rfl, fun _ _ he => by cases he⟩
      | ok e =>
        have shorter := e.shorter
        have skipped := length_skipSpace_le s
        have skipped' := length_skipSpace_le r
        rw [h, List.length_cons] at skipped
        rw [h', List.length_cons] at skipped'
        refine ⟨fun none => ?_, fun _ _ he => ?_⟩
        · cases none
        · cases he
          exact ⟨by omega, rfl⟩

end

/-! ## Numbers spelled as objects -/

section

variable {s r t rest : List Char} {c : Char}

theorem spelledNumber_other (h : skipSpace s = c :: r) (hc : c ≠ '"') : found (spelledNumber s) = none := by
  unfold spelledNumber
  split
  · rename_i quote; rw [h] at quote; cases quote; exact absurd rfl hc
  · rfl

/-- A numeral as a string is a number if the brace closes behind it. -/
theorem spelledNumber_close {text : List Char}
    (h : skipSpace s = '"' :: (text.flatMap StringLiteral.escapeChar ++ '"' :: t)) (h' : skipSpace t = '\x7d' :: rest) :
    found (spelledNumber s) = if Numeral.IsNumeral text then some (.number (String.ofList text), rest) else none := by
  obtain ⟨_, read⟩ := found_eq_some_iff.mp (StringLiteral.found_read_write text t)
  unfold spelledNumber
  split
  · rename_i quote
    rw [h] at quote
    cases quote
    rw [found_bind_ok read, String.toList_ofList]
    by_cases numeral : Numeral.IsNumeral text
    · rw [if_pos numeral, Numeral.ofText?_ok_iff.mpr ⟨numeral, rfl⟩]
      dsimp only
      split
      · rename_i brace; rw [h'] at brace; cases brace; rfl
      · rename_i none; rw [h'] at none; cases none
      · rename_i comma; rw [h'] at comma; cases comma
      · rename_i other _ _; exact absurd h' (other rest)
    · rw [if_neg numeral]
      cases literal : Numeral.ofText? text with
      | error error => rfl
      | ok literal' => exact absurd (Numeral.ofText?_ok_iff.mp literal).1 numeral
  · rename_i other; exact absurd h (other _)

/-- Nothing may stand behind the string. -/
theorem spelledNumber_further {text : List Char}
    (h : skipSpace s = '"' :: (text.flatMap StringLiteral.escapeChar ++ '"' :: t)) (h' : skipSpace t = ',' :: r) :
    found (spelledNumber s) = none := by
  obtain ⟨_, read⟩ := found_eq_some_iff.mp (StringLiteral.found_read_write text t)
  unfold spelledNumber
  split
  · rename_i quote
    rw [h] at quote
    cases quote
    rw [found_bind_ok read, String.toList_ofList]
    cases Numeral.ofText? text with
    | error error => rfl
    | ok literal =>
      dsimp only
      split
      · rename_i brace; rw [h'] at brace; cases brace
      · rfl
      · rfl
      · rfl
  · rfl

end

end Document

end Decodables.Json
