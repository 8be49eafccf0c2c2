/-
  Decodables.Proofs.Json.NumeralReading — a reader of numerals takes the numerals of JSON.

  A numeral is a sign, whole digits, a fraction and an exponent, all but the digits
  optional; whole digits start with a zero only if there is no other digit. A reader takes
  the longest numeral in front, so that a numeral is read to its end if what follows does
  not go on with it.

  Proved, over every text:
  - `found_read`: a numeral is read as it stands.
  - `isNumeral_of_found`: nothing else is read, and what is read stands in front.
  - `ofText?_ok_iff`: so the texts that are taken for numbers are the numerals.
  - `isNumeral_toString`: a natural number in decimal is a numeral.
-/

import Mathlib.Data.List.TakeWhile
import Decodables.Proofs.Json.StringReading
import Decodables.Json.Numeral

namespace Decodables.Json.Numeral

/-! ## Numerals -/

def IsDigits (s : List Char) : Prop := s ≠ [] ∧ ∀ c ∈ s, c.isDigit

/-- Digits in front of the point: a zero alone, or digits that do not start with one. -/
def IsWhole (s : List Char) : Prop := s = ['0'] ∨ (IsDigits s ∧ s.head? ≠ some '0')

def IsFraction (s : List Char) : Prop := s = [] ∨ ∃ ds, s = '.' :: ds ∧ IsDigits ds

def IsSign (s : List Char) : Prop := s = [] ∨ s = ['+'] ∨ s = ['-']

def IsExponent (s : List Char) : Prop :=
  s = [] ∨ ∃ e sign ds, s = e :: (sign ++ ds) ∧ (e = 'e' ∨ e = 'E') ∧ IsSign sign ∧ IsDigits ds

def IsUnsigned (s : List Char) : Prop :=
  ∃ whole fraction exponent, s = whole ++ (fraction ++ exponent) ∧ IsWhole whole ∧ IsFraction fraction ∧
    IsExponent exponent

def IsNumeral (s : List Char) : Prop := IsUnsigned s ∨ ∃ u, s = '-' :: u ∧ IsUnsigned u

/-- Whether a character may stand in a numeral behind its first digit, signs of exponents apart. -/
def goesOn (c : Char) : Bool := c.isDigit || c == '.' || c == 'e' || c == 'E'

def Ends (rest : List Char) : Prop := ∀ c ∈ rest.head?, goesOn c = false

def EndsDigits (rest : List Char) : Prop := ∀ c ∈ rest.head?, c.isDigit = false

theorem Ends.endsDigits {rest : List Char} (h : Ends rest) : EndsDigits rest := by
  intro c hc
  have := h c hc
  simp only [goesOn, Bool.or_eq_false_iff] at this
  exact this.1.1.1

theorem IsFraction.endsDigits {s rest : List Char} (h : IsFraction s) (hr : EndsDigits rest) :
    EndsDigits (s ++ rest) := by
  rcases h with rfl | ⟨ds, rfl, _⟩
  · exact hr
  · intro c hc
    obtain rfl : '.' = c := by simpa using hc
    rfl

theorem IsExponent.endsDigits {s rest : List Char} (h : IsExponent s) (hr : EndsDigits rest) :
    EndsDigits (s ++ rest) := by
  rcases h with rfl | ⟨e, sign, ds, rfl, he, _⟩
  · exact hr
  · intro c hc
    obtain rfl : e = c := by simpa using hc
    rcases he with rfl | rfl <;> rfl

/-! ## Numerals are read -/

theorem digits_append {ds rest : List Char} (h : ∀ c ∈ ds, c.isDigit) (hr : EndsDigits rest) :
    digits (ds ++ rest) = (ds, rest) := by
  have stop : rest.takeWhile Char.isDigit = [] ∧ rest.dropWhile Char.isDigit = rest := by
    cases rest with
    | nil => exact ⟨rfl, rfl⟩
    | cons c rest =>
      have : c.isDigit = false := hr c rfl
      simp [this]
  rw [digits, List.takeWhile_append_of_pos h, List.dropWhile_append_of_pos h, stop.1, stop.2, List.append_nil]

theorem exponentSign_append {sign : List Char} (h : IsSign sign) {d : Char} (hd : d.isDigit) (r : List Char) :
    exponentSign (sign ++ d :: r) = (sign, d :: r) := by
  rcases h with rfl | rfl | rfl
  · have plus : d ≠ '+' := by rintro rfl; exact absurd hd (by decide)
    have minus : d ≠ '-' := by rintro rfl; exact absurd hd (by decide)
    unfold exponentSign
    split
    · rename_i h; cases h; exact absurd rfl plus
    · rename_i h; cases h; exact absurd rfl minus
    · rfl
  · rfl
  · rfl

theorem found_exponent {s rest : List Char} (h : IsExponent s) (hr : Ends rest) :
    found (exponent (s ++ rest)) = some (s, rest) := by
  rcases h with rfl | ⟨e, sign, ds, rfl, he, hs, hd⟩
  · cases rest with
    | nil => rfl
    | cons c rest =>
      have stop : goesOn c = false := hr c rfl
      have other : ¬ (c = 'e' ∨ c = 'E') := by
        rintro (rfl | rfl) <;> cases stop
      simp [exponent, other]
  · obtain ⟨d, ds, rfl⟩ := List.exists_cons_of_ne_nil hd.1
    obtain ⟨digit, others⟩ := List.forall_mem_cons.mp hd.2
    have signed : exponentSign (sign ++ d :: ds ++ rest) = (sign, d :: (ds ++ rest)) := by
      rw [List.append_assoc]
      exact exponentSign_append hs digit _
    have taken : digits (ds ++ rest) = (ds, rest) := digits_append others hr.endsDigits
    rw [List.cons_append, exponent, if_pos he]
    split
    · rename_i none
      rw [signed] at none
      cases none
    · rename_i some
      rw [signed] at some
      cases some
      simp [digit, taken]

theorem found_fraction {f e rest : List Char} (hf : IsFraction f) (he : IsExponent e) (hr : Ends rest) :
    found (fraction (f ++ (e ++ rest))) = some (f ++ e, rest) := by
  have read := found_exponent he hr
  rcases hf with rfl | ⟨ds, rfl, hd⟩
  · -- what stands there is no point, so it is left to the exponent
    rw [List.nil_append, List.nil_append, ← read, fraction]
    intro r point
    rcases he with rfl | ⟨c, sign, ds, rfl, hc, _⟩
    · exact absurd (hr '.' (by simp at point; simp [point])) (by decide)
    · cases point
      exact absurd hc (by decide)
  · have taken : digits (ds ++ (e ++ rest)) = (ds, e ++ rest) := digits_append hd.2 (he.endsDigits hr.endsDigits)
    rw [List.cons_append, fraction]
    split
    · rename_i none; exact absurd (congrArg Prod.fst (taken.symm.trans none)) hd.1
    · rename_i none; exact absurd (congrArg Prod.fst (taken.symm.trans none)) hd.1
    · rename_i some
      rw [taken] at some
      cases some
      rw [found_map _ (fun x => '.' :: (ds ++ x)), read]
      rfl

theorem found_unsigned {s rest : List Char} (h : IsUnsigned s) (hr : Ends rest) :
    found (unsigned (s ++ rest)) = some (s, rest) := by
  obtain ⟨w, f, e, rfl, hw, hf, he⟩ := h
  have read := found_fraction hf he hr
  have stop : EndsDigits (f ++ (e ++ rest)) := hf.endsDigits (he.endsDigits hr.endsDigits)
  rw [List.append_assoc, List.append_assoc]
  rcases hw with rfl | ⟨⟨nonempty, all⟩, head⟩
  · have alone : ((f ++ (e ++ rest)).head?.map Char.isDigit).getD false = false := by
      cases hh : (f ++ (e ++ rest)).head? with
      | none => rfl
      | some c => exact stop c hh
    rw [List.cons_append, List.nil_append, unsigned, if_pos rfl, alone, if_neg Bool.false_ne_true,
      found_map _ (fun x => '0' :: x), read]
    rfl
  · obtain ⟨d, ds, rfl⟩ := List.exists_cons_of_ne_nil nonempty
    obtain ⟨digit, others⟩ := List.forall_mem_cons.mp all
    have nonzero : d ≠ '0' := by rintro rfl; exact head rfl
    have taken : digits (ds ++ (f ++ (e ++ rest))) = (ds, f ++ (e ++ rest)) := digits_append others stop
    rw [List.cons_append, unsigned, if_neg nonzero, if_pos digit,
      found_map _ (fun x => d :: ((digits (ds ++ (f ++ (e ++ rest)))).1 ++ x)), taken, read]
    rfl

/-- A numeral is read to its end. -/
theorem found_read {s rest : List Char} (h : IsNumeral s) (hr : Ends rest) :
    found (read (s ++ rest)) = some (s, rest) := by
  rcases h with h | ⟨u, rfl, h⟩
  · rw [← found_unsigned h hr, read]
    intro r minus
    obtain ⟨w, f, e, rfl, hw, -, -⟩ := h
    rcases hw with rfl | ⟨⟨nonempty, all⟩, -⟩
    · cases minus
    · obtain ⟨d, ds, rfl⟩ := List.exists_cons_of_ne_nil nonempty
      cases minus
      exact absurd (all _ (List.mem_cons_self ..)) (by decide)
  · rw [List.cons_append, read, found_map _ (fun x => '-' :: x), found_unsigned h hr]
    rfl

/-! ## Nothing else is read -/

theorem digits_spec (s : List Char) : s = (digits s).1 ++ (digits s).2 ∧ ∀ c ∈ (digits s).1, c.isDigit :=
  ⟨(List.takeWhile_append_dropWhile).symm, fun _ hc => List.mem_takeWhile_imp hc⟩

theorem exponentSign_spec {s sign t : List Char} (h : exponentSign s = (sign, t)) : IsSign sign ∧ s = sign ++ t := by
  unfold exponentSign at h
  split at h
  · cases h; exact ⟨.inr (.inl rfl), rfl⟩
  · cases h; exact ⟨.inr (.inr rfl), rfl⟩
  · cases h; exact ⟨.inl rfl, rfl⟩

theorem isExponent_of_found {t s rest : List Char} (h : found (exponent t) = some (s, rest)) :
    IsExponent s ∧ t = s ++ rest := by
  unfold exponent at h
  split at h
  · cases h; exact ⟨.inl rfl, rfl⟩
  · rename_i e r
    split at h
    · rename_i he
      split at h
      · cases h
      · rename_i sign d t signed
        split at h
        · rename_i digit
          cases h
          obtain ⟨hs, rfl⟩ := exponentSign_spec signed
          obtain ⟨whole, all⟩ := digits_spec t
          refine ⟨.inr ⟨e, sign, d :: (digits t).1, rfl, he, hs, by simp, ?_⟩, ?_⟩
          · exact List.forall_mem_cons.mpr ⟨digit, all⟩
          · simp [← whole]
        · cases h
    · cases h; exact ⟨.inl rfl, rfl⟩

theorem isFraction_of_found {t s rest : List Char} (h : found (fraction t) = some (s, rest)) :
    ∃ f e, s = f ++ e ∧ IsFraction f ∧ IsExponent e ∧ t = s ++ rest := by
  unfold fraction at h
  split at h
  · rename_i r
    split at h
    · cases h
    · cases h
    · rename_i ds t _ nonempty taken
      rw [found_map _ (fun x => '.' :: (ds ++ x)), Option.map_eq_some_iff] at h
      obtain ⟨⟨e, rest'⟩, read, he⟩ := h
      cases he
      obtain ⟨exponent, rfl⟩ := isExponent_of_found read
      obtain ⟨whole, all⟩ := digits_spec r
      rw [taken] at whole all
      refine ⟨'.' :: ds, e, rfl, .inr ⟨ds, rfl, ?_, all⟩, exponent, by simp [whole]⟩
      rintro rfl
      exact nonempty rfl
  · obtain ⟨exponent, rfl⟩ := isExponent_of_found h
    exact ⟨[], s, rfl, .inl rfl, exponent, rfl⟩

theorem isUnsigned_of_found {t s rest : List Char} (h : found (unsigned t) = some (s, rest)) :
    IsUnsigned s ∧ t = s ++ rest := by
  unfold unsigned at h
  split at h
  · cases h
  · rename_i d r
    split at h
    · rename_i zero
      subst zero
      split at h
      · cases h
      · rw [found_map _ (fun x => '0' :: x), Option.map_eq_some_iff] at h
        obtain ⟨⟨x, rest'⟩, read, he⟩ := h
        cases he
        obtain ⟨f, e, rfl, hf, he, rfl⟩ := isFraction_of_found read
        exact ⟨⟨['0'], f, e, rfl, .inl rfl, hf, he⟩, rfl⟩
    · rename_i nonzero
      split at h
      · rename_i digit
        rw [found_map _ (fun x => d :: ((digits r).1 ++ x)), Option.map_eq_some_iff] at h
        obtain ⟨⟨x, rest'⟩, read, he⟩ := h
        cases he
        obtain ⟨f, e, rfl, hf, he, left⟩ := isFraction_of_found read
        obtain ⟨whole, all⟩ := digits_spec r
        refine ⟨⟨d :: (digits r).1, f, e, by simp, .inr ⟨⟨by simp, ?_⟩, by simpa using nonzero⟩, hf, he⟩, ?_⟩
        · exact List.forall_mem_cons.mpr ⟨digit, all⟩
        · rw [left] at whole
          simpa using whole
      · cases h

theorem isNumeral_of_found {t s rest : List Char} (h : found (read t) = some (s, rest)) :
    IsNumeral s ∧ t = s ++ rest := by
  unfold read at h
  split at h
  · rw [found_map _ (fun x => '-' :: x), Option.map_eq_some_iff] at h
    obtain ⟨⟨u, rest'⟩, read, he⟩ := h
    cases he
    obtain ⟨unsigned, rfl⟩ := isUnsigned_of_found read
    exact ⟨.inr ⟨u, rfl, unsigned⟩, rfl⟩
  · obtain ⟨unsigned, left⟩ := isUnsigned_of_found h
    exact ⟨.inl unsigned, left⟩

/-! ## Texts that hold a numeral -/

theorem isNumeral_head {s : List Char} (h : IsNumeral s) : ∃ c r, s = c :: r ∧ (c = '-' ∨ c.isDigit) := by
  rcases h with ⟨w, f, e, rfl, hw, -, -⟩ | ⟨u, rfl, -⟩
  · rcases hw with rfl | ⟨⟨nonempty, all⟩, -⟩
    · exact ⟨'0', _, rfl, .inr rfl⟩
    · obtain ⟨d, ds, rfl⟩ := List.exists_cons_of_ne_nil nonempty
      exact ⟨d, _, rfl, .inr (all d (List.mem_cons_self ..))⟩
  · exact ⟨'-', u, rfl, .inl rfl⟩

/-- The first character of a numeral is none of the other characters. -/
theorem head_ne {c d : Char} (hc : c = '-' ∨ c.isDigit) (minus : d ≠ '-') (digit : d.isDigit = false) : c ≠ d := by
  rintro rfl
  rcases hc with rfl | hc
  · exact minus rfl
  · rw [digit] at hc; cases hc

/-- A text is taken for a number just if it is a numeral, and it is the number's spelling. -/
theorem ofText?_ok_iff {s literal : List Char} : ofText? s = .ok literal ↔ IsNumeral s ∧ literal = s := by
  constructor
  · intro h
    unfold ofText? at h
    split at h
    · cases h
    · split at h
      · split at h
        · rename_i r read
          split at h
          · rename_i whole
            cases h
            have read' : found (Numeral.read _) = _ := congrArg found read
            rw [found_ok, whole] at read'
            obtain ⟨numeral, left⟩ := isNumeral_of_found read'
            rw [List.append_nil] at left
            exact ⟨left ▸ numeral, left.symm⟩
          · cases h
        · split at h
          · split at h <;> cases h
          · cases h
      · cases h
  · rintro ⟨numeral, rfl⟩
    have none : Ends [] := fun c hc => by cases hc
    obtain ⟨c, r, rfl, head⟩ := isNumeral_head numeral
    have read := found_read numeral none
    rw [List.append_nil, found_eq_some_iff] at read
    obtain ⟨shorter, read⟩ := read
    simp [ofText?, head, read]

theorem ofText?_isOk_iff {s : List Char} : (ofText? s).isOk ↔ IsNumeral s := by
  cases h : ofText? s with
  | ok literal => exact iff_of_true rfl (ofText?_ok_iff.mp h).1
  | error error =>
    refine iff_of_false nofun fun numeral => ?_
    rw [ofText?_ok_iff.mpr ⟨numeral, rfl⟩] at h
    cases h

instance : DecidablePred IsNumeral := fun _ => decidable_of_iff _ ofText?_isOk_iff

example : IsNumeral "-0.5e+07".toList ∧ ¬ IsNumeral "01".toList ∧ ¬ IsNumeral "1.".toList := by decide

/-! ## Natural numbers -/

/-- The digits of a number above 0 do not start with a zero. -/
theorem toDigits_head {n : Nat} (h : 0 < n) : (Nat.toDigits 10 n).head? ≠ some '0' := by
  induction n using Nat.strongRecOn with
  | ind n ih =>
    rw [Nat.toDigits_eq_if (by decide)]
    split
    · rw [List.head?_cons, ne_eq, Option.some.injEq, Nat.digitChar_eq_zero]
      exact Nat.ne_of_gt h
    · rw [List.head?_append, Option.or_of_isSome (by simp [Nat.toDigits_ne_nil])]
      exact ih (n / 10) (by omega) (by omega)

theorem isNumeral_toString (n : Nat) : IsNumeral (toString n).toList := by
  have digits : IsDigits (Nat.toDigits 10 n) :=
    ⟨Nat.toDigits_ne_nil, fun c hc => Nat.isDigit_of_mem_toDigits (by decide) (by decide) hc⟩
  have whole : IsWhole (Nat.toDigits 10 n) := by
    rcases Nat.eq_zero_or_pos n with rfl | h
    · exact .inl (Nat.toDigits_zero 10)
    · exact .inr ⟨digits, toDigits_head h⟩
  rw [Nat.toString_eq_repr, Nat.toList_repr]
  exact .inl ⟨_, [], [], by simp, whole, .inl rfl, .inl rfl⟩

end Decodables.Json.Numeral
