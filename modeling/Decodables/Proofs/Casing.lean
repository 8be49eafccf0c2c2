/-
  Decodables.Proofs.Casing — where a case mapping leads.

  A form is an expansion, the code point itself, or a code point among those that one of
  the runs leads to. So a stretch of code points that nothing leads to, and that the runs
  empty, does not occur at the head of a form.

  Proved, over all characters:
  - `caseForm_leaves`: the law above.
  - `lowercase_head`: a lowercase form does not start with an ASCII capital.
  - `uppercase_head`: nor an uppercase form with an ASCII lowercase letter.
-/

import Mathlib
import Decodables.Unicode.Lowercase
import Decodables.Unicode.Uppercase

namespace Decodables.Unicode

/-! ## Mappings by tables -/

theorem shiftCase_eq_or (runs : List CaseRun) (n : Nat) :
    shiftCase runs n = n ∨
      ∃ r ∈ runs, r.target ≤ shiftCase runs n ∧ shiftCase runs n ≤ r.target + (r.last - r.first) := by
  induction runs with
  | nil => exact .inl rfl
  | cons r rest ih =>
    unfold shiftCase
    split
    · exact .inl rfl
    · split
      · split
        · exact .inr ⟨r, List.mem_cons_self .., by omega, by omega⟩
        · exact .inl rfl
      · rcases ih with h | ⟨q, hq, h⟩
        · exact .inl h
        · exact .inr ⟨q, List.mem_cons_of_mem _ hq, h⟩

theorem caseForm_eq_or (runs : List CaseRun) (expansions : List (Nat × String)) (c : Char) :
    (∃ e ∈ expansions, caseForm runs expansions c = e.2.toList) ∨
      caseForm runs expansions c = [Char.ofNat (shiftCase runs c.toNat)] := by
  unfold caseForm
  split
  · rename_i form h
    obtain ⟨before, after, rfl, _⟩ := List.lookup_eq_some_iff.mp h
    exact .inl ⟨(c.toNat, form), by simp, rfl⟩
  · exact .inr rfl

theorem caseForm_ne_nil {runs : List CaseRun} {expansions : List (Nat × String)}
    (expanded : ∀ e ∈ expansions, e.2.toList ≠ []) (c : Char) : caseForm runs expansions c ≠ [] := by
  rcases caseForm_eq_or runs expansions c with ⟨e, he, h⟩ | h
  · rw [h]; exact expanded e he
  · rw [h]; exact List.cons_ne_nil _ _

/-- No form starts with a code point from `lo` to `hi`, if no expansion and no run leads
    there and the runs move all that is there. -/
theorem caseForm_leaves {runs : List CaseRun} {expansions : List (Nat × String)} (lo hi : Nat) (positive : 0 < lo)
    (expanded : ∀ e ∈ expansions, e.2.toList.head?.all fun x => decide (x.toNat < lo ∨ hi < x.toNat))
    (led : ∀ r ∈ runs, r.target + (r.last - r.first) < lo ∨ hi < r.target)
    (moved : ∀ n ≤ hi, lo ≤ n → shiftCase runs n ≠ n) (c : Char) :
    ∀ x ∈ (caseForm runs expansions c).head?, x.toNat < lo ∨ hi < x.toNat := by
  intro x hx
  rcases caseForm_eq_or runs expansions c with ⟨e, he, h⟩ | h
  · rw [h] at hx
    simpa [Option.mem_def.mp hx] using expanded e he
  · rw [h, List.head?_cons, Option.mem_some] at hx
    subst hx
    rw [Char.toNat_ofNat]
    split
    · rcases shiftCase_eq_or runs c.toNat with same | ⟨r, hr, low, high⟩
      · have : ¬ (lo ≤ c.toNat ∧ c.toNat ≤ hi) := fun ⟨h₁, h₂⟩ => moved c.toNat h₂ h₁ same
        rw [same]; omega
      · have := led r hr
        omega
    · exact .inl positive

/-! ## Lowercase forms -/

theorem isUpper_iff (c : Char) : c.isUpper ↔ 0x41 ≤ c.toNat ∧ c.toNat ≤ 0x5A := by
  show decide (c.val ≥ 65 ∧ c.val ≤ 90) = true ↔ _
  rw [decide_eq_true_eq, ge_iff_le, UInt32.le_iff_toNat_le, UInt32.le_iff_toNat_le]
  exact .rfl

theorem lowercase_ne_nil (c : Char) : lowercase c ≠ [] := caseForm_ne_nil (by decide) c

/-- A lowercase form does not start with an ASCII capital. -/
theorem lowercase_head (c : Char) : ∀ x ∈ (lowercase c).head?, x.isUpper = false := by
  intro x hx
  have := caseForm_leaves 0x41 0x5A (by decide) (by decide) (by decide +kernel) (by decide +kernel) c x hx
  rw [Bool.eq_false_iff, ne_eq, isUpper_iff]
  omega

/-! ## Uppercase forms -/

theorem isLower_iff (c : Char) : c.isLower ↔ 0x61 ≤ c.toNat ∧ c.toNat ≤ 0x7A := by
  show (decide (c.val ≥ 97) && decide (c.val ≤ 122)) = true ↔ _
  rw [Bool.and_eq_true, decide_eq_true_eq, decide_eq_true_eq, ge_iff_le, UInt32.le_iff_toNat_le, UInt32.le_iff_toNat_le]
  exact .rfl

theorem isLower_of_isDigit {c : Char} (h : c.isDigit) : c.isLower = false := by
  have high : c.toNat ≤ 0x39 := (Char.isDigit_iff_toNat.mp h).2
  rw [Bool.eq_false_iff, ne_eq, isLower_iff]
  omega

/-- An uppercase form does not start with an ASCII lowercase letter. -/
theorem uppercase_head (c : Char) : ∀ x ∈ (uppercase c).head?, x.isLower = false := by
  intro x hx
  have := caseForm_leaves 0x61 0x7A (by decide) (by decide +kernel) (by decide +kernel) (by decide +kernel) c x hx
  rw [Bool.eq_false_iff, ne_eq, isLower_iff]
  omega

end Decodables.Unicode
