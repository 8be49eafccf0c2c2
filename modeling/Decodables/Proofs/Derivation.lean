/-
  Decodables.Proofs.Derivation — the shape of a derived name.

  The first character of a key that can lead a name survives stripping, raising and
  filtering as it is, and takes its form only then. So a derived name is that form and
  name characters behind it, and it is empty just if there is no such character. What
  consists of name characters from there on is not changed but for the form.

  Proved, over all keys and both styles:
  - `derive_cons`, `derive_nil`: the shape.
  - `derive_eq_empty_iff`: which keys derive no name.
  - `derive_of_named`: a text of name characters with a leading one in front takes the form
    of that one, and stays as it is otherwise.
  - `derive_chars`: the characters of a derived name are name characters or characters of
    the form of one.
-/

import Mathlib.Data.List.Basic
import Mathlib.Data.List.TakeWhile
import Decodables.Proofs.NameForms

namespace Decodables.Identifier

open Unicode

/-! ## Stripping -/

theorem strip_eq_nil_iff {s : List Char} : strip s = [] ↔ ∀ c ∈ s, isLeading c = false := by
  unfold strip
  rw [List.dropWhile_eq_nil_iff]
  simp

/-- What is left of a key starts with the first character that can lead a name. -/
theorem strip_head? (s : List Char) : (strip s).head? = s.find? isLeading :=
  (List.find?_eq_head?_dropWhile_not isLeading s).symm

theorem isLeading_of_strip {s rest : List Char} {c : Char} (h : strip s = c :: rest) : isLeading c := by
  have found : s.find? isLeading = some c := by
    rw [← strip_head?, h]
    rfl
  exact List.find?_some found

theorem mem_of_strip {s rest : List Char} {c : Char} (h : strip s = c :: rest) : c ∈ s := by
  have kept : c ∈ strip s := by
    rw [h]
    exact List.mem_cons_self ..
  exact (List.dropWhile_suffix _).subset kept

theorem strip_cons_leading {c : Char} (h : isLeading c) (rest : List Char) : strip (c :: rest) = c :: rest := by
  simp [strip, h]

theorem strip_cons_other {c : Char} (h : isLeading c = false) (rest : List Char) : strip (c :: rest) = strip rest := by
  simp [strip, h]

/-! ## Raising -/

theorem raise_cons_name {c : Char} (h : isNameChar c) (rest : List Char) : raise (c :: rest) = c :: raise rest := by
  simp [raise, raiseFrom, isSeparator, h]

/-- There is nothing to raise without separators. -/
theorem raise_named {s : List Char} (h : ∀ c ∈ s, isNameChar c) : raise s = s := by
  induction s with
  | nil => rfl
  | cons c rest ih =>
    rw [raise_cons_name (h c (List.mem_cons_self ..)), ih fun d hd => h d (List.mem_cons_of_mem _ hd)]

/-! ## Derived names -/

variable {style : Style} {key : String}

theorem derive_nil (h : strip key.toList = []) : derive style key = "" := by
  rw [derive, h]
  rfl

/-- The form of the first character that can lead a name, and what is left of the others. -/
theorem derive_cons {c : Char} {rest : List Char} (h : strip key.toList = c :: rest) :
    derive style key = String.ofList (form style c ++ (raise rest).filter isNameChar) := by
  have named := isNameChar_of_isLeading (isLeading_of_strip h)
  rw [derive, h, raise_cons_name named, List.filter_cons_of_pos named, recase_cons]

theorem derive_toList_cons {c : Char} {rest : List Char} (h : strip key.toList = c :: rest) :
    (derive style key).toList = form style c ++ (raise rest).filter isNameChar := by
  rw [derive_cons h, String.toList_ofList]

theorem derive_eq_empty_iff : derive style key = "" ↔ ∀ c ∈ key.toList, isLeading c = false := by
  rw [← strip_eq_nil_iff]
  constructor
  · intro empty
    cases h : strip key.toList with
    | nil => rfl
    | cons c rest =>
      have spelling : (derive style key).toList = form style c ++ (raise rest).filter isNameChar :=
        derive_toList_cons h
      rw [empty] at spelling
      exact absurd (List.append_eq_nil_iff.mp spelling.symm).1 (form_ne_nil style c)
  · exact derive_nil

/-- Name characters behind a leading one stay, and that one takes its form. -/
theorem derive_of_named {c : Char} {rest : List Char} (leading : isLeading c) (named : ∀ d ∈ rest, isNameChar d) :
    derive style (String.ofList (c :: rest)) = String.ofList (form style c ++ rest) := by
  have stripped : strip (String.ofList (c :: rest)).toList = c :: rest := by
    rw [String.toList_ofList, strip_cons_leading leading]
  rw [derive_cons stripped, raise_named named, List.filter_eq_self.mpr named]

theorem derive_chars : ∀ x ∈ (derive style key).toList,
    isNameChar x ∨ ∃ c ∈ key.toList, isLeading c ∧ x ∈ form style c := by
  intro x hx
  cases h : strip key.toList with
  | nil =>
    rw [derive_nil h] at hx
    cases hx
  | cons c rest =>
    rw [derive_toList_cons h, List.mem_append] at hx
    rcases hx with hx | hx
    · exact .inr ⟨c, mem_of_strip h, isLeading_of_strip h, hx⟩
    · exact .inl (List.mem_filter.mp hx).2

/-- A name that is derived starts as the form of a leading character does. -/
theorem derive_head : ∀ x ∈ (derive style key).toList.head?,
    ∃ c ∈ key.toList, isLeading c ∧ x ∈ (form style c).head? := by
  intro x hx
  cases h : strip key.toList with
  | nil =>
    rw [derive_nil h] at hx
    cases hx
  | cons c rest =>
    rw [derive_toList_cons h, List.head?_append_of_ne_nil _ (form_ne_nil style c)] at hx
    exact ⟨c, mem_of_strip h, isLeading_of_strip h, hx⟩

end Decodables.Identifier
