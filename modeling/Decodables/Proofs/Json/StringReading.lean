/-
  Decodables.Proofs.Json.StringReading — a string literal that was written is read back.

  What a reader promises of its rest is of no use once it has come back, so readers are
  compared by what they found and left (`found`). A character of a literal is written as
  itself or as an escape, and a reader behind it has that character either way.

  Proved, over every text:
  - `found_map`, `found_widen`: what is found by readers that go on from others.
  - `escapeChar_cases`: how a character is written, and that its escape stands for it.
  - `found_read_write`: the literal ends at its own closing quote, whatever follows, and
    what was written is found.
-/

import Decodables.Json.StringLiteral

namespace Decodables.Json

/-! ## What readers find -/

variable {α β : Type} {m n : Nat}

/-- What a reader found and the text it left, if it found anything. -/
def found : Except Fault (Reading α n) → Option (α × List Char)
  | .ok r => some (r.value, r.rest)
  | .error _ => none

@[simp] theorem found_ok (r : Reading α n) : found (.ok r) = some (r.value, r.rest) := rfl

theorem found_eq_some_iff {r : Except Fault (Reading α n)} {a : α} {rest : List Char} :
    found r = some (a, rest) ↔ ∃ shorter, r = .ok ⟨a, rest, shorter⟩ := by
  cases r with
  | error fault => simp [found]
  | ok r =>
    obtain ⟨value, left, shorter⟩ := r
    simp only [found_ok, Option.some.injEq, Prod.mk.injEq, Except.ok.injEq, Reading.mk.injEq]
    constructor
    · rintro ⟨rfl, rfl⟩
      exact ⟨shorter, rfl, rfl⟩
    · rintro ⟨_, rfl, rfl⟩
      exact ⟨rfl, rfl⟩

theorem found_eq_none_iff {r : Except Fault (Reading α n)} : found r = none ↔ ∃ fault, r = .error fault := by
  cases r <;> simp [found]

/-- A reader that goes on from where another one stopped. -/
theorem found_bind_eq_some_iff {r : Except Fault (Reading α m)} {f : Reading α m → Except Fault (Reading β n)}
    {p : β × List Char} : found (r >>= f) = some p ↔ ∃ x, r = .ok x ∧ found (f x) = some p := by
  cases r with
  | error fault => exact iff_of_false nofun nofun
  | ok x => exact ⟨fun h => ⟨x, rfl, h⟩, fun ⟨_, hx, h⟩ => by cases hx; exact h⟩

theorem found_bind_ok {r : Except Fault (Reading α m)} {x : Reading α m} (h : r = .ok x)
    (f : Reading α m → Except Fault (Reading β n)) : found (r >>= f) = found (f x) := by
  rw [h]
  rfl

/-- A reader that makes something of what another one found. -/
theorem found_map (r : Except Fault (Reading α m)) (f : α → β) (shorter : ∀ x : Reading α m, x.rest.length < n) :
    found (r >>= fun x => .ok ⟨f x.value, x.rest, shorter x⟩) = (found r).map fun p => (f p.1, p.2) := by
  cases r <;> rfl

/-- A reader that only promises less of what it leaves. -/
@[simp] theorem found_widen (r : Except Fault (Reading α m)) (le : m ≤ n) :
    found (r >>= fun x => .ok (x.widen le)) = found r := by
  cases r <;> rfl

namespace StringLiteral

/-! ## Escapes -/

theorem hexDigit?_digitChar {d : Nat} (h : d < 16) : hexDigit? (Nat.digitChar d) = some d := by
  have table : ∀ d < 16, hexDigit? (Nat.digitChar d) = some d := by decide
  exact table d h

/-- A control character is found behind the four digits that spell it. -/
theorem found_escape_control {n : Nat} (h : n < 0x20) (rest : List Char) :
    found (escape ('u' :: '0' :: '0' :: Nat.digitChar (n / 16) :: Nat.digitChar (n % 16) :: rest)) =
      some (Char.ofNat n, rest) := by
  have high : hexDigit? (Nat.digitChar (n / 16)) = some (n / 16) := hexDigit?_digitChar (by omega)
  have low : hexDigit? (Nat.digitChar (n % 16)) = some (n % 16) := hexDigit?_digitChar (by omega)
  have zero : hexDigit? '0' = some 0 := rfl
  have spelled : ((0 * 16 + 0) * 16 + n / 16) * 16 + n % 16 = n := by omega
  have single : ¬ (0xDC00 ≤ n ∧ n ≤ 0xDFFF) ∧ ¬ (0xD800 ≤ n ∧ n ≤ 0xDBFF) := by omega
  simp only [escape, found_widen, unicodeEscape, fourHex, zero, high, low, spelled]
  simp [bind, Except.bind, single]

/-- A character is written as a backslash and what stands for it, or as itself if a reader
    does not stop at it. -/
theorem escapeChar_cases (c : Char) :
    (∃ body, escapeChar c = '\\' :: body ∧ ∀ rest, found (escape (body ++ rest)) = some (c, rest)) ∨
      (escapeChar c = [c] ∧ c ≠ '"' ∧ c ≠ '\\' ∧ ¬ c.toNat < 0x20) := by
  unfold escapeChar
  split
  iterate 7 exact .inl ⟨_, rfl, fun rest => rfl⟩
  rename_i quote backslash _ _ _ _ _
  split
  · rename_i control
    refine .inl ⟨_, rfl, fun rest => ?_⟩
    simpa using found_escape_control control rest
  · rename_i shown
    exact .inr ⟨rfl, quote, backslash, shown⟩

/-! ## Literals -/

theorem found_readOn_char {bound : Nat} {done rest : List Char} (c : Char)
    (h : (escapeChar c ++ rest).length ≤ bound) (h' : rest.length ≤ bound) :
    found (readOn bound done (escapeChar c ++ rest) h) = found (readOn bound (c :: done) rest h') := by
  rcases escapeChar_cases c with ⟨body, written, escaped⟩ | ⟨written, quote, backslash, shown⟩
  · obtain ⟨shorter, read⟩ := found_eq_some_iff.mp (escaped rest)
    simp only [written, List.cons_append] at h ⊢
    rw [readOn]
    simp [read]
  · simp only [written, List.cons_append, List.nil_append] at h ⊢
    rw [readOn]
    simp [quote, backslash, shown]

theorem found_readOn {bound : Nat} (s rest : List Char) : ∀ (done : List Char)
    (h : (s.flatMap escapeChar ++ '"' :: rest).length ≤ bound),
      found (readOn bound done (s.flatMap escapeChar ++ '"' :: rest) h) =
        some (String.ofList (done.reverse ++ s), rest) := by
  induction s with
  | nil =>
    intro done h
    simp only [List.flatMap_nil, List.nil_append] at h ⊢
    rw [readOn]
    simp
  | cons c s ih =>
    intro done h
    simp only [List.flatMap_cons, List.append_assoc] at h ⊢
    have left : (s.flatMap escapeChar ++ '"' :: rest).length ≤ bound := by
      simp only [List.length_append] at h ⊢
      omega
    rw [found_readOn_char c h left, ih (c :: done) left]
    simp

/-- Behind its opening quote a literal gives the text it was written for. -/
theorem found_read_write (s rest : List Char) :
    found (read (s.flatMap escapeChar ++ '"' :: rest)) = some (String.ofList s, rest) :=
  found_readOn s rest [] (Nat.le_refl _)

end StringLiteral

end Decodables.Json
