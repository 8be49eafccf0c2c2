/-
  Decodables.Proofs.Swift.LiteralReading — reading string literals back.

  A reader inside a literal goes from character to character. A double quote ends the
  literal unless an escape is open. The escapes are those of a backslash, a double quote,
  line feed, carriage return, tab and NUL, and code points of one to eight hexadecimal
  digits between braces; any other escape is refused, an interpolation too, and so is the
  end of a line.

  Proved, over every text:
  - `pass_body`: passing over the body of the literal for a text gives the text.
  - `read_body`: the literal ends at its own closing quote, whatever follows.
  - `body_no_control`, `quote_escaped`: the body has no control character, and no double
    quote outside an escape.
-/

import Decodables.Swift.StringLiteral

namespace Decodables.Swift.StringLiteral

/-! ## The reader -/

inductive Phase where
  | plain
  /-- Behind a backslash. -/
  | escape
  /-- Behind the `u` of an escape. -/
  | brace
  /-- Inside the braces, behind so many digits of this value. -/
  | hex (digits value : Nat)
  deriving DecidableEq, Repr

/-- What a reader inside a literal knows: the text so far, and where it is. -/
structure Scan where
  text : List Char
  phase : Phase
  deriving DecidableEq, Repr

def shortEscape? : Char → Option Char
  | '\\' => some '\\'
  | '"' => some '"'
  | 'n' => some '\n'
  | 'r' => some '\r'
  | 't' => some '\t'
  | '0' => some '\x00'
  | _ => none

def hexDigit? (c : Char) : Option Nat :=
  if '0' ≤ c ∧ c ≤ '9' then some (c.toNat - 0x30)
  else if 'a' ≤ c ∧ c ≤ 'f' then some (c.toNat - 0x57)
  else if 'A' ≤ c ∧ c ≤ 'F' then some (c.toNat - 0x37)
  else none

namespace Scan

def start : Scan := ⟨[], .plain⟩

def closes (s : Scan) (c : Char) : Bool := s.phase = .plain && c == '"'

def step (s : Scan) (c : Char) : Option Scan :=
  match s.phase with
  | .plain =>
    if c = '\\' then some { s with phase := .escape }
    else if c = '\n' ∨ c = '\r' then none
    else some ⟨s.text ++ [c], .plain⟩
  | .escape =>
    if c = 'u' then some { s with phase := .brace }
    else (shortEscape? c).map fun d => ⟨s.text ++ [d], .plain⟩
  | .brace => if c = '\x7b' then some { s with phase := .hex 0 0 } else none
  | .hex digits value =>
    if c = '\x7d' then
      if 1 ≤ digits ∧ digits ≤ 8 ∧ value.isValidChar then some ⟨s.text ++ [Char.ofNat value], .plain⟩ else none
    else (hexDigit? c).map fun d => { s with phase := .hex (digits + 1) (16 * value + d) }

def pass : Scan → List Char → Option Scan
  | s, [] => some s
  | s, c :: rest => if s.closes c then none else (s.step c).bind fun next => next.pass rest

def finish : Scan → List Char → Option (List Char × List Char)
  | _, [] => none
  | s, c :: rest => if s.closes c then some (s.text, rest) else (s.step c).bind fun next => next.finish rest

theorem pass_append (s : Scan) (a b : List Char) : s.pass (a ++ b) = (s.pass a).bind fun t => t.pass b := by
  induction a generalizing s with
  | nil => rfl
  | cons c a ih =>
    simp only [List.cons_append, pass]
    split
    · rfl
    · cases s.step c with
      | none => rfl
      | some t => exact ih t

theorem finish_append {s t : Scan} {a : List Char} (h : s.pass a = some t) (b : List Char) :
    s.finish (a ++ b) = t.finish b := by
  induction a generalizing s with
  | nil => cases h; rfl
  | cons c a ih =>
    simp only [pass] at h
    simp only [List.cons_append, finish]
    split at h
    · cases h
    · rename_i hc
      rw [if_neg hc]
      cases hs : s.step c with
      | none => rw [hs] at h; cases h
      | some u => rw [hs] at h; exact ih h

end Scan

def read (s : List Char) : Option (List Char × List Char) := Scan.start.finish s

/-! ## Literals that were written -/

theorem pass_digit (text : List Char) (digits value : Nat) {d : Nat} (h : d < 16) :
    Scan.pass ⟨text, .hex digits value⟩ [Nat.digitChar d] = some ⟨text, .hex (digits + 1) (16 * value + d)⟩ := by
  have table : ∀ d < 16, Nat.digitChar d ≠ '\x7d' ∧ hexDigit? (Nat.digitChar d) = some d := by decide
  obtain ⟨inside, read⟩ := table d h
  simp [Scan.pass, Scan.closes, Scan.step, inside, read]

theorem pass_toDigits (text : List Char) (n : Nat) :
    Scan.pass ⟨text, .hex 0 0⟩ (Nat.toDigits 16 n) = some ⟨text, .hex (Nat.toDigits 16 n).length n⟩ := by
  induction n using Nat.strongRecOn with
  | ind n ih =>
    rcases Nat.lt_or_ge n 16 with small | large
    · rw [Nat.toDigits_of_lt_base small, pass_digit text 0 0 small]
      simp
    · rw [Nat.toDigits_of_base_le (by decide) large, Scan.pass_append, ih (n / 16) (by omega), Option.bind_some,
        pass_digit text _ _ (Nat.mod_lt n (by decide)), Nat.div_add_mod, List.length_append, List.length_singleton]

/-- The escape of a control character has at most two digits. -/
theorem length_toDigits_control {c : Char} (h : isControl c) : (Nat.toDigits 16 c.toNat).length ≤ 2 := by
  refine (Nat.length_toDigits_le_iff (by decide) (by decide)).mpr ?_
  simp only [isControl, Bool.or_eq_true, Bool.and_eq_true, decide_eq_true_eq] at h
  omega

theorem pass_escapeChar (text : List Char) (c : Char) :
    Scan.pass ⟨text, .plain⟩ (escapeChar c) = some ⟨text ++ [c], .plain⟩ := by
  unfold escapeChar
  split
  · rfl
  · rfl
  · rfl
  · rfl
  · rfl
  · rfl
  · rename_i backslash quote feed ret _ _
    split
    · rename_i control
      have opened : Scan.pass ⟨text, .plain⟩ ['\\', 'u', '\x7b'] = some ⟨text, .hex 0 0⟩ := rfl
      have short := length_toDigits_control control
      have long : 1 ≤ (Nat.toDigits 16 c.toNat).length := Nat.length_toDigits_pos
      have valid : c.toNat.isValidChar := c.valid
      rw [Scan.pass_append, Scan.pass_append, opened, Option.bind_some, pass_toDigits, Option.bind_some]
      simp only [Scan.pass, Scan.closes, Scan.step, reduceCtorEq, decide_false, Bool.false_and, Bool.false_eq_true,
        if_false, if_true]
      rw [if_pos ⟨long, by omega, valid⟩, Option.bind_some, Char.ofNat_toNat]
    · have copied : c ≠ '"' ∧ c ≠ '\\' ∧ c ≠ '\n' ∧ c ≠ '\r' := ⟨quote, backslash, feed, ret⟩
      simp [Scan.pass, Scan.closes, Scan.step, copied]

theorem pass_body (s : List Char) : Scan.start.pass (body s) = some ⟨s, .plain⟩ := by
  suffices ∀ text, Scan.pass ⟨text, .plain⟩ (body s) = some ⟨text ++ s, .plain⟩ from this []
  induction s with
  | nil => intro text; simp [body, Scan.pass]
  | cons c s ih =>
    intro text
    simp only [body, List.flatMap_cons] at ih ⊢
    rw [Scan.pass_append, pass_escapeChar, Option.bind_some, ih, List.append_assoc, List.singleton_append]

theorem read_body (s rest : List Char) : read (body s ++ '"' :: rest) = some (s, rest) := by
  rw [read, Scan.finish_append (pass_body s)]
  rfl

/-! ## What the body of a literal is made of -/

theorem mem_toDigits {n : Nat} {c : Char} (h : c ∈ Nat.toDigits 16 n) : ∃ d < 16, c = Nat.digitChar d := by
  induction n using Nat.strongRecOn with
  | ind n ih =>
    rcases Nat.lt_or_ge n 16 with small | large
    · rw [Nat.toDigits_of_lt_base small, List.mem_singleton] at h
      exact ⟨n, small, h⟩
    · rw [Nat.toDigits_of_base_le (by decide) large, List.mem_append, List.mem_singleton] at h
      rcases h with h | h
      · exact ih (n / 16) (by omega) h
      · exact ⟨n % 16, Nat.mod_lt n (by decide), h⟩

theorem body_no_control (s : List Char) : ∀ c ∈ body s, isControl c = false := by
  intro c hc
  obtain ⟨d, _, hd⟩ := List.mem_flatMap.mp hc
  unfold escapeChar at hd
  split at hd
  iterate 6
    · simp only [List.mem_cons, List.not_mem_nil, or_false] at hd
      rcases hd with rfl | rfl <;> rfl
  · split at hd
    · rcases List.mem_append.mp hd with hd | hd
      · rcases List.mem_append.mp hd with hd | hd
        · simp only [List.mem_cons, List.not_mem_nil, or_false] at hd
          rcases hd with rfl | rfl | rfl <;> rfl
        · obtain ⟨d, small, rfl⟩ := mem_toDigits hd
          have table : ∀ d < 16, isControl (Nat.digitChar d) = false := by decide
          exact table d small
      · rw [List.mem_singleton.mp hd]; rfl
    · rename_i h
      rw [List.mem_singleton.mp hd]
      simpa using h

/-- A double quote that a reader passes over belongs to an escape. -/
theorem quote_escaped {s t : Scan} {before after : List Char} (h : s.pass (before ++ '"' :: after) = some t) :
    ∃ text, s.pass before = some ⟨text, .escape⟩ := by
  rw [Scan.pass_append] at h
  cases hb : s.pass before with
  | none => rw [hb] at h; cases h
  | some u =>
    rw [hb, Option.bind_some] at h
    obtain ⟨text, phase⟩ := u
    cases phase with
    | escape => exact ⟨text, rfl⟩
    | plain => cases h
    | brace => cases h
    | hex digits value => cases h

end Decodables.Swift.StringLiteral
