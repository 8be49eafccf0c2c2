/-
  Decodables.Proofs.UsableNames — the names that a scope gives can stand as they are.

  A derived name is spelled with name characters and starts with one that leads names,
  which may still be a number or stand alone as the wildcard. What a scope wants instead
  mends just these two, and a number behind a name adds digits. So whatever has been given
  before, a name that is given is a name.

  Proved, over every run of requests, for keys whose characters are kept in both cases:
  - `derive_usable`, `underscored_usable`, `fallbackName_usable`: a derived name is usable,
    or the one that mends it is.
  - `Usable.numbered`: a usable name stays so with a number behind it.
  - `answers_usable`: every name that is given is usable; and a key derives none just if it
    has no character that can lead a name.
-/

import Decodables.Proofs.Derivation
import Decodables.Proofs.NamingRun

namespace Decodables

open Identifier
open Unicode (isAlphabetic isDecimalDigit isNumeric inRanges rangeBits testBit_rangeBits)

/-! ## Usable names -/

namespace Identifier

/-- White space, control characters, quotes and braces. -/
def breakingRanges : List (Nat × Nat) :=
  [(0x00, 0x20), (0x22, 0x22), (0x27, 0x27), (0x60, 0x60), (0x7B, 0x7B), (0x7D, 0x7D), (0x7F, 0xA0),
   (0x1680, 0x1680), (0x2000, 0x200A), (0x2028, 0x2029), (0x202F, 0x202F), (0x205F, 0x205F), (0x3000, 0x3000)]

def breaks (c : Char) : Bool := inRanges breakingRanges c.toNat

theorem breaks_of_isNameChar {c : Char} (h : isNameChar c) : breaks c = false := by
  have apart : rangeBits breakingRanges &&& nameBits = 0 := by decide +kernel
  have ascending : Unicode.Ascending 0 breakingRanges := by decide
  have never := congrArg (·.testBit c.toNat) apart
  simp only [Nat.testBit_and, Nat.zero_testBit, testBit_rangeBits ascending, testBit_nameBits, h, Bool.and_true] at never
  exact never

/-- A name that can stand in a program: it is spelled with name characters and starts with
    an alphabetic character or an underscore that is no number, and is not the wildcard. -/
structure Usable (name : String) : Prop where
  nonempty : name ≠ ""
  ne_wildcard : name ≠ "_"
  spelled : ∀ c ∈ name.toList, isNameChar c
  head : ∃ c ∈ name.toList.head?, (isAlphabetic c ∨ c = '_') ∧ isNumeric c = false

theorem numeric_of_digit {c : Char} (h : isDecimalDigit c) : isNumeric c := by
  have covered : rangeBits Unicode.decimalDigitRanges ||| rangeBits Unicode.numericRanges =
      rangeBits Unicode.numericRanges := by decide +kernel
  have digits : Unicode.Ascending 0 Unicode.decimalDigitRanges := by decide +kernel
  have numbers : Unicode.Ascending 0 Unicode.numericRanges := by decide +kernel
  have same := congrArg (·.testBit c.toNat) covered
  simp only [Nat.testBit_or, testBit_rangeBits digits, testBit_rangeBits numbers] at same
  show inRanges Unicode.numericRanges c.toNat = true
  rw [← same, show inRanges Unicode.decimalDigitRanges c.toNat = true from h, Bool.true_or]

/-- What leads names and is no number is alphabetic or the underscore. -/
theorem alphabetic_of_leading {c : Char} (h : isLeading c) (unnumbered : isNumeric c = false) :
    isAlphabetic c ∨ c = '_' := by
  simp only [isLeading, Bool.or_eq_true, beq_iff_eq] at h
  rcases h with (alphabetic | digit) | underscore
  · exact .inl alphabetic
  · rw [numeric_of_digit digit] at unnumbered
    cases unnumbered
  · exact .inr underscore

theorem isNameChar_of_isDigit {c : Char} (h : c.isDigit) : isNameChar c := by
  have table : ∀ n ≤ 0x39, 0x30 ≤ n → inRanges Unicode.decimalDigitRanges n = true := by decide
  obtain ⟨low, high⟩ := Char.isDigit_iff_toNat.mp h
  have digit : isDecimalDigit c := table c.toNat high low
  simp [isNameChar, isLeading, digit]

theorem toString_named (n : Nat) : ∀ c ∈ (toString n).toList, isNameChar c := by
  intro c hc
  rw [Nat.toString_eq_repr, Nat.toList_repr] at hc
  exact isNameChar_of_isDigit (Nat.isDigit_of_mem_toDigits (by decide) (by decide) hc)

/-- A number behind a usable name leaves it usable. -/
theorem Usable.numbered {name : String} (h : Usable name) (n : Nat) : Usable (name ++ toString n) := by
  obtain ⟨c, head, leads⟩ := h.head
  have kept : (name ++ toString n).toList.head? = some c := by
    rw [String.toList_append, List.head?_append, Option.mem_def.mp head]
    rfl
  refine ⟨?_, ?_, ?_, c, kept, leads⟩
  · intro empty
    rw [empty] at kept
    cases kept
  · -- the last character would have to be the underscore and a digit
    intro wild
    have digits := toString_named n
    have single : name.toList ++ (toString n).toList = ['_'] := by
      rw [← String.toList_append, wild]
      rfl
    rcases List.append_eq_singleton_iff.mp single with ⟨empty, _⟩ | ⟨_, empty⟩
    · exact h.nonempty (String.toList_eq_nil_iff.mp empty)
    · have : toString n = "" := String.toList_eq_nil_iff.mp empty
      rw [Nat.toString_eq_repr] at this
      exact Nat.repr_ne_empty this
  · intro d hd
    rw [String.toList_append] at hd
    rcases List.mem_append.mp hd with hd | hd
    · exact h.spelled d hd
    · exact toString_named n d hd

/-- A name by the position is a word with the position behind it. -/
theorem fallbackName_usable (style : Style) (position : Nat) : Usable (fallbackName style position) := by
  cases style with
  | camel =>
    have word : Usable "field" :=
      ⟨by decide, by decide, List.all_eq_true.mp (by decide), 'f', rfl, .inl (by decide), by decide⟩
    exact word.numbered position
  | pascal =>
    have word : Usable "Field" :=
      ⟨by decide, by decide, List.all_eq_true.mp (by decide), 'F', rfl, .inl (by decide), by decide⟩
    exact word.numbered position

/-- An underscore in front makes a name of whatever is spelled with name characters. -/
theorem underscored_usable {name : String} (nonempty : name ≠ "") (spelled : ∀ c ∈ name.toList, isNameChar c) :
    Usable ("_" ++ name) := by
  have chars : ("_" ++ name).toList = '_' :: name.toList := by simp
  refine ⟨?_, ?_, ?_, '_', ?_, .inr rfl, by decide⟩
  · intro empty
    rw [empty] at chars
    cases chars
  · intro wild
    exact nonempty (String.append_eq_left_iff.mp wild)
  · intro c hc
    rw [chars] at hc
    rcases List.mem_cons.mp hc with rfl | hc
    · decide
    · exact spelled c hc
  · rw [chars]
    rfl

def KeyKept (key : String) : Prop := ∀ c ∈ key.toList, isNameChar c → ∀ style, Kept style c

theorem derive_spelled {key : String} (kept : KeyKept key) (style : Style) :
    ∀ x ∈ (derive style key).toList, isNameChar x := by
  intro x hx
  rcases derive_chars x hx with named | ⟨c, hc, leading, formed⟩
  · exact named
  · exact (kept c hc (isNameChar_of_isLeading leading) style).spelled x formed

/-- A derived name that names something and does not start with a number is usable. -/
theorem derive_usable {key : String} (kept : KeyKept key) {style : Style} (nonempty : derive style key ≠ "")
    (unwild : derive style key ≠ "_") (unnumbered : ¬ startsNumeric (derive style key)) :
    Usable (derive style key) := by
  have some_letter : (derive style key).toList ≠ [] := fun empty => nonempty (String.toList_eq_nil_iff.mp empty)
  obtain ⟨x, rest, spelling⟩ := List.exists_cons_of_ne_nil some_letter
  have first : (derive style key).toList.head? = some x := by
    rw [spelling]
    rfl
  have unnumeric : isNumeric x = false := by simpa [startsNumeric, first] using unnumbered
  obtain ⟨c, hc, leading, formed⟩ := derive_head x first
  have leads := (kept c hc (isNameChar_of_isLeading leading) style).leading leading x formed
  exact ⟨nonempty, unwild, derive_spelled kept style, x, first, alphabetic_of_leading leads unnumeric, unnumeric⟩

end Identifier

/-! ## Requests -/

namespace Scope

theorem wanted_usable {r : Request} (kept : KeyKept r.key) : Usable r.wanted := by
  unfold Request.wanted
  by_cases nothing : r.NamesNothing
  · rw [if_pos nothing]
    exact fallbackName_usable r.style r.position
  · rw [if_neg nothing]
    obtain ⟨nonempty, unwild⟩ := not_or.mp nothing
    by_cases numeric : startsNumeric r.derived
    · rw [if_pos numeric]
      exact underscored_usable nonempty (derive_spelled kept r.style)
    · rw [if_neg numeric]
      exact derive_usable kept nonempty unwild numeric

/-- Whatever a scope holds, the name that it gives is usable. -/
theorem answer_usable (s : Scope) {r : Request} (kept : KeyKept r.key) : Usable (s.answer r).name := by
  rw [answer_name]
  rcases s.choose_eq_or r.wanted with ⟨_, he⟩ | ⟨_, n, _, he, _⟩
  · rw [he]
    exact wanted_usable kept
  · rw [he]
    exact (wanted_usable kept).numbered n

theorem run_usable (s : Scope) {requests : List Request} (kept : ∀ r ∈ requests, KeyKept r.key) :
    ∀ c ∈ s.answers requests, Usable c.name := by
  induction requests generalizing s with
  | nil => intro c hc; cases hc
  | cons r rest ih =>
    intro c hc
    rcases List.mem_cons.mp hc with rfl | hc
    · exact s.answer_usable (kept r (List.mem_cons_self ..))
    · exact ih _ (fun q hq => kept q (List.mem_cons_of_mem _ hq)) c hc

/-- On a fresh scope every request of a run gets a usable name, which so holds no white
    space, control character, quote or brace. A key derives no name just if none of its
    characters can lead one. -/
theorem answers_usable {requests : List Request} (kept : ∀ r ∈ requests, KeyKept r.key) :
    (∀ c ∈ initial.answers requests, Usable c.name ∧ ∀ x ∈ c.name.toList, breaks x = false) ∧
      ∀ style key, derive style key = "" ↔ ∀ c ∈ key.toList, isLeading c = false := by
  refine ⟨fun c hc => ?_, fun style key => derive_eq_empty_iff⟩
  have usable := run_usable initial kept c hc
  exact ⟨usable, fun x hx => breaks_of_isNameChar (usable.spelled x hx)⟩

def oddHeads : List Request :=
  [⟨.camel, "\u2167 \u00df", 1, "$"⟩, ⟨.pascal, "\u0345a", 2, "$"⟩, ⟨.pascal, "\ufb04-x", 3, "$"⟩,
   ⟨.camel, "\u0301!", 4, "$"⟩, ⟨.camel, "_", 4, "$"⟩]

theorem oddHeads_usable :
    (∀ r ∈ oddHeads, KeyKept r.key) ∧
      (initial.answers oddHeads).map (·.name) = ["_\u2177SS", "\u0399a", "FFLX", "field4", "field42"] ∧
      ∀ c ∈ initial.answers oddHeads, Usable c.name := by
  have home : ∀ r ∈ oddHeads, r.key.toList.all fun c => !strayLetters.contains c := by decide
  have kept : ∀ r ∈ oddHeads, KeyKept r.key := by
    intro r hr c hc named style
    have homely := List.all_eq_true.mp (home r hr) c hc
    exact (kept_iff named).mpr fun stray => by simp [stray.2] at homely
  have given : (initial.answers oddHeads).map (·.name) = ["_\u2177SS", "\u0399a", "FFLX", "field4", "field42"] := by
    decide +kernel
  exact ⟨kept, given, fun c hc => ((answers_usable kept).1 c hc).1⟩

end Scope

end Decodables
