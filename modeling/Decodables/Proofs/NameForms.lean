/-
  Decodables.Proofs.NameForms — what the case mappings make of the characters of names.

  The character classes and the case mappings are tables of their own. A fact about all
  characters is checked once for each mapped code point; what is not mapped keeps its class.
  For such a check a class is taken as one number, whose bits are its code points, since a
  bit is found at once and a range by searching.

  Proved, over all characters and both styles:
  - `testBit_rangeBits`: the bits of that number are the code points in the ranges.
  - `form_fixed`: the first character of a form is its own form.
  - `kept_iff`: the form of a name character is spelled with name characters, and leads a
    name if the character does; but for two letters, whose capitals are in no class.
  - `form_separator`: the form of a separator is made of separators.
-/

import Decodables.Identifier.Derive
import Decodables.Proofs.Casing

namespace Decodables

namespace Unicode

/-! ## Classes as numbers -/

def Ascending : Nat → List (Nat × Nat) → Bool
  | _, [] => true
  | low, (first, last) :: rest => decide (low ≤ first) && decide (first ≤ last) && Ascending (last + 1) rest

/-- The number with a bit for each code point in the ranges. -/
def rangeBits : List (Nat × Nat) → Nat
  | [] => 0
  | (first, last) :: rest => (1 <<< (last + 1 - first) - 1) <<< first ||| rangeBits rest

theorem inRanges_below {low : Nat} {ranges : List (Nat × Nat)} (h : Ascending low ranges) {n : Nat} (below : n < low) :
    inRanges ranges n = false := by
  cases ranges with
  | nil => rfl
  | cons r rest =>
    simp only [Ascending, Bool.and_eq_true, decide_eq_true_eq] at h
    have inside : n ≤ r.2 := by omega
    have before : ¬ r.1 ≤ n := by omega
    simp [inRanges, inside, before]

theorem testBit_rangeBits {low : Nat} {ranges : List (Nat × Nat)} (h : Ascending low ranges) (n : Nat) :
    (rangeBits ranges).testBit n = inRanges ranges n := by
  induction ranges generalizing low with
  | nil => simp [rangeBits, inRanges]
  | cons r rest ih =>
    obtain ⟨first, last⟩ := r
    simp only [Ascending, Bool.and_eq_true, decide_eq_true_eq] at h
    obtain ⟨⟨_, ordered⟩, behind⟩ := h
    simp only [rangeBits, Nat.testBit_or, Nat.testBit_shiftLeft, Nat.one_shiftLeft, Nat.testBit_two_pow_sub_one, ih behind, inRanges]
    by_cases inside : n ≤ last
    · have later : inRanges rest n = false := inRanges_below behind (by omega)
      by_cases reached : first ≤ n
      · simp [inside, reached, show n - first < last + 1 - first by omega]
      · simp [inside, reached, later]
    · by_cases reached : first ≤ n
      · simp [inside, show ¬ n - first < last + 1 - first by omega]
      · omega

def bits (ns : List Nat) : Nat := rangeBits (ns.map fun n => (n, n))

theorem testBit_bits (ns : List Nat) (n : Nat) : (bits ns).testBit n ↔ n ∈ ns := by
  induction ns with
  | nil => simp [bits, rangeBits]
  | cons m rest ih =>
    simp only [bits, List.map_cons, rangeBits, Nat.testBit_or, Bool.or_eq_true, List.mem_cons] at ih ⊢
    refine or_congr ?_ ih
    simp only [Nat.testBit_shiftLeft, Nat.one_shiftLeft, Nat.testBit_two_pow_sub_one, Bool.and_eq_true, decide_eq_true_eq]
    omega

/-! ## Mapped code points -/

def CaseRun.pairs (r : CaseRun) : List (Nat × Nat) :=
  (List.range ((r.last - r.first) / r.step + 1)).map fun k => (r.first + r.step * k, r.target + r.step * k)

theorem CaseRun.mem_pairs {r : CaseRun} {n : Nat} (low : r.first ≤ n) (high : n ≤ r.last)
    (stepped : (n - r.first) % r.step = 0) : (n, r.target + (n - r.first)) ∈ r.pairs := by
  have whole : r.step * ((n - r.first) / r.step) = n - r.first := by
    have := Nat.div_add_mod (n - r.first) r.step
    omega
  have within : (n - r.first) / r.step ≤ (r.last - r.first) / r.step := Nat.div_le_div_right (by omega)
  refine List.mem_map.mpr ⟨(n - r.first) / r.step, List.mem_range.mpr (by omega), ?_⟩
  rw [whole, Nat.add_sub_cancel' low]

theorem shiftCase_mapped (runs : List CaseRun) (n : Nat) :
    shiftCase runs n = n ∨ ∃ r ∈ runs, (n, shiftCase runs n) ∈ r.pairs := by
  induction runs with
  | nil => exact .inl rfl
  | cons r rest ih =>
    unfold shiftCase
    by_cases low : n < r.first
    · simp [low]
    · by_cases high : n ≤ r.last
      · by_cases stepped : (n - r.first) % r.step = 0
        · right
          simp only [low, high, stepped, if_false, if_true]
          exact ⟨r, List.mem_cons_self .., r.mem_pairs (by omega) high stepped⟩
        · simp [low, high, stepped]
      · simp only [low, high, if_false]
        rcases ih with h | ⟨q, hq, h⟩
        · exact .inl h
        · exact .inr ⟨q, List.mem_cons_of_mem _ hq, h⟩

def sources (runs : List CaseRun) (expansions : List (Nat × String)) : List Nat :=
  expansions.map (·.1) ++ runs.flatMap fun r => r.pairs.map (·.1)

variable {runs : List CaseRun} {expansions : List (Nat × String)}

/-- A form is the character itself, an expansion, or the one that a run pairs with it. -/
theorem caseForm_cases (runs : List CaseRun) (expansions : List (Nat × String)) (c : Char) :
    caseForm runs expansions c = [c] ∨
      (∃ e ∈ expansions, e.1 = c.toNat ∧ caseForm runs expansions c = e.2.toList) ∨
      ∃ r ∈ runs, ∃ p ∈ r.pairs, p.1 = c.toNat ∧ caseForm runs expansions c = [Char.ofNat p.2] := by
  unfold caseForm
  split
  · rename_i spelling h
    obtain ⟨before, after, rfl, _⟩ := List.lookup_eq_some_iff.mp h
    exact .inr (.inl ⟨(c.toNat, spelling), by simp, rfl, rfl⟩)
  · rcases shiftCase_mapped runs c.toNat with same | ⟨r, hr, mapped⟩
    · rw [same, Char.ofNat_toNat]
      exact .inl rfl
    · exact .inr (.inr ⟨r, hr, _, mapped, rfl, rfl⟩)

theorem caseForm_of_not_source {c : Char} (h : c.toNat ∉ sources runs expansions) : caseForm runs expansions c = [c] := by
  rcases caseForm_cases runs expansions c with same | ⟨e, he, from_c, _⟩ | ⟨r, hr, p, hp, from_c, _⟩
  · exact same
  · exact absurd (List.mem_append_left _ (List.mem_map.mpr ⟨e, he, from_c⟩)) h
  · have mapped : c.toNat ∈ r.pairs.map (·.1) := List.mem_map.mpr ⟨p, hp, from_c⟩
    exact absurd (List.mem_append_right _ (List.mem_flatMap.mpr ⟨r, hr, mapped⟩)) h

end Unicode

namespace Identifier

open Unicode

/-! ## Forms by style -/

def form : Style → Char → List Char
  | .camel => lowercase
  | .pascal => uppercase

def formRuns : Style → List CaseRun
  | .camel => lowercaseRuns
  | .pascal => uppercaseRuns

def formExpansions : Style → List (Nat × String)
  | .camel => lowercaseExpansions
  | .pascal => uppercaseExpansions

theorem form_eq (style : Style) (c : Char) : form style c = caseForm (formRuns style) (formExpansions style) c := by
  cases style <;> rfl

theorem recase_cons (style : Style) (c : Char) (rest : List Char) :
    recase style (c :: rest) = form style c ++ rest := by
  cases style <;> rfl

theorem form_ne_nil (style : Style) (c : Char) : form style c ≠ [] := by
  cases style with
  | camel => exact lowercase_ne_nil c
  | pascal => exact caseForm_ne_nil (by decide) c

/-- The first character of a form is its own form: no table maps what a table leads to. -/
theorem form_fixed (style : Style) (c : Char) : ∀ x ∈ (form style c).head?, form style x = [x] := by
  have settled : ∀ {x : Char}, (bits (sources (formRuns style) (formExpansions style))).testBit x.toNat = false →
      form style x = [x] := by
    intro x h
    rw [form_eq]
    refine caseForm_of_not_source fun mapped => ?_
    rw [(testBit_bits _ _).mpr mapped] at h
    cases h
  have expanded : (formExpansions style).all (fun e => e.2.toList.head?.all fun x =>
      !(bits (sources (formRuns style) (formExpansions style))).testBit x.toNat) := by
    cases style <;> decide +kernel
  have paired : (formRuns style).all (fun r => r.pairs.all fun p => decide p.2.isValidChar &&
      !(bits (sources (formRuns style) (formExpansions style))).testBit p.2) := by
    cases style <;> decide +kernel
  intro x hx
  rw [form_eq] at hx
  rcases caseForm_cases (formRuns style) (formExpansions style) c with same | ⟨e, he, _, h⟩ | ⟨r, hr, p, hp, _, h⟩
  · rw [same] at hx
    cases hx
    rw [form_eq, same]
  · rw [h] at hx
    have := List.all_eq_true.mp expanded e he
    rw [Option.mem_def.mp hx] at this
    exact settled (by simpa using this)
  · rw [h] at hx
    cases hx
    have := List.all_eq_true.mp (List.all_eq_true.mp paired r hr) p hp
    simp only [Bool.and_eq_true, decide_eq_true_eq, Bool.not_eq_true'] at this
    exact settled (by rw [Char.toNat_ofNat, if_pos this.1]; exact this.2)

/-! ## Forms of name characters -/

def leadingBits : Nat := rangeBits alphabeticRanges ||| rangeBits decimalDigitRanges ||| bits [0x5F]

def nameBits : Nat := leadingBits ||| rangeBits markRanges

theorem testBit_leadingBits (c : Char) : leadingBits.testBit c.toNat = isLeading c := by
  have alphabetic : Ascending 0 alphabeticRanges := by decide +kernel
  have digits : Ascending 0 decimalDigitRanges := by decide +kernel
  have underscore : (bits [0x5F]).testBit c.toNat = (c == '_') := by
    rw [Bool.eq_iff_iff, testBit_bits, List.mem_singleton, beq_iff_eq, ← Char.toNat_inj]
    exact .rfl
  rw [leadingBits, Nat.testBit_or, Nat.testBit_or, testBit_rangeBits alphabetic, testBit_rangeBits digits, underscore]
  rfl

theorem testBit_nameBits (c : Char) : nameBits.testBit c.toNat = isNameChar c := by
  have marks : Ascending 0 markRanges := by decide +kernel
  rw [nameBits, Nat.testBit_or, testBit_leadingBits, testBit_rangeBits marks]
  rfl

theorem isNameChar_of_isLeading {c : Char} (h : isLeading c) : isNameChar c := by simp [isNameChar, h]

/-- The letters of names whose capitals are in no class: double thorn and double wynn. The
    capitals are newer than the classes. -/
def strayLetters : List Char := ['\ua7d3', '\ua7d5']

/-- The form of a name character is spelled with name characters, and leads a name if the
    character does. -/
structure Kept (style : Style) (c : Char) : Prop where
  spelled : ∀ x ∈ form style c, isNameChar x
  leading : isLeading c → ∀ x ∈ (form style c).head?, isLeading x

theorem stray_form {c : Char} (h : c ∈ strayLetters) : ∃ x, form .pascal c = [x] ∧ isNameChar x = false := by
  simp only [strayLetters, List.mem_cons, List.not_mem_nil, or_false] at h
  rcases h with rfl | rfl
  · exact ⟨'\ua7d2', by decide +kernel, by decide +kernel⟩
  · exact ⟨'\ua7d4', by decide +kernel, by decide +kernel⟩

theorem kept_of_home {style : Style} {c : Char} (named : isNameChar c) (home : style = .pascal → c ∉ strayLetters) :
    Kept style c := by
  have expanded : (formExpansions style).all (fun e => (e.2.toList.all fun x => nameBits.testBit x.toNat) &&
      e.2.toList.head?.all fun x => leadingBits.testBit x.toNat) := by
    cases style <;> decide +kernel
  have paired : (formRuns style).all (fun r => r.pairs.all fun p =>
      !nameBits.testBit p.1 || (decide p.2.isValidChar && leadingBits.testBit p.2) ||
        (style == .pascal && (strayLetters.map (·.toNat)).contains p.1)) := by
    cases style <;> decide +kernel
  rcases caseForm_cases (formRuns style) (formExpansions style) c with same | ⟨e, he, _, h⟩ | ⟨r, hr, p, hp, from_c, h⟩
  · rw [← form_eq] at same
    refine ⟨?_, ?_⟩
    · rw [same]
      simpa using named
    · intro leading
      rw [same]
      simpa using leading
  · rw [← form_eq] at h
    have := List.all_eq_true.mp expanded e he
    simp only [Bool.and_eq_true, List.all_eq_true, testBit_nameBits] at this
    refine ⟨h ▸ this.1, fun _ x hx => ?_⟩
    rw [h] at hx
    simpa [Option.mem_def.mp hx, testBit_leadingBits] using this.2
  · rw [← form_eq] at h
    have given := List.all_eq_true.mp (List.all_eq_true.mp paired r hr) p hp
    rw [from_c, testBit_nameBits, named] at given
    have stays : ¬ (style = .pascal ∧ c ∈ strayLetters) := fun stray => home stray.1 stray.2
    have apart : (style == .pascal && (strayLetters.map (·.toNat)).contains c.toNat) = false := by
      rw [Bool.eq_false_iff]
      intro stray
      simp only [Bool.and_eq_true, beq_iff_eq, List.contains_iff_mem, List.mem_map, Char.toNat_inj, exists_eq_right] at stray
      exact stays stray
    rw [apart] at given
    simp only [Bool.not_true, Bool.false_or, Bool.or_false, Bool.and_eq_true, decide_eq_true_eq] at given
    have leads : isLeading (Char.ofNat p.2) := by
      rw [← testBit_leadingBits, Char.toNat_ofNat, if_pos given.1]
      exact given.2
    refine ⟨?_, fun _ => ?_⟩
    · rw [h]
      simpa using isNameChar_of_isLeading leads
    · rw [h]
      simpa using leads

/-- Names keep their characters in every style, but for the two stray letters in Pascal case. -/
theorem kept_iff {style : Style} {c : Char} (named : isNameChar c) :
    Kept style c ↔ ¬ (style = .pascal ∧ c ∈ strayLetters) := by
  constructor
  · rintro kept ⟨rfl, stray⟩
    obtain ⟨x, given, unnamed⟩ := stray_form stray
    have := kept.spelled x (by rw [given]; exact List.mem_singleton.mpr rfl)
    rw [unnamed] at this
    cases this
  · intro home
    exact kept_of_home named fun pascal stray => home ⟨pascal, stray⟩

/-! ## Forms of separators -/

/-- What separates words does so in uppercase too. -/
theorem form_separator {c : Char} (h : isSeparator c) : ∀ x ∈ uppercase c, isSeparator x := by
  have expanded : uppercaseExpansions.all fun e => nameBits.testBit e.1 := by decide +kernel
  have paired : uppercaseRuns.all fun r => r.pairs.all fun p =>
      nameBits.testBit p.1 || (decide p.2.isValidChar && !nameBits.testBit p.2) := by decide +kernel
  have unnamed : isNameChar c = false := by simpa [isSeparator] using h
  intro x hx
  rcases caseForm_cases uppercaseRuns uppercaseExpansions c with same | ⟨e, he, from_c, _⟩ | ⟨r, hr, p, hp, from_c, given⟩
  · rw [uppercase, same, List.mem_singleton] at hx
    rw [hx]
    exact h
  · have := List.all_eq_true.mp expanded e he
    rw [from_c, testBit_nameBits, unnamed] at this
    cases this
  · have := List.all_eq_true.mp (List.all_eq_true.mp paired r hr) p hp
    rw [from_c, testBit_nameBits, unnamed] at this
    simp only [Bool.false_or, Bool.and_eq_true, decide_eq_true_eq, Bool.not_eq_true'] at this
    rw [uppercase, given, List.mem_singleton] at hx
    have separates : nameBits.testBit x.toNat = false := by
      rw [hx, Char.toNat_ofNat, if_pos this.1]
      exact this.2
    rw [testBit_nameBits] at separates
    simp [isSeparator, separates]

end Identifier

end Decodables
