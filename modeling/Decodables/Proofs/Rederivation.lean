/-
  Decodables.Proofs.Rederivation — deriving a name from a derived name.

  A derived name starts with the form of a character that leads names, and goes on with
  name characters. The first character of a form is its own form. So if that one leads
  names as well, deriving again changes nothing. It does not just for the two stray
  letters in Pascal case: their capitals are stripped as if they were no letters.

  Proved, over all keys and both styles:
  - `derive_derive_of_kept`: a name is derived from itself, if its first form is kept.
  - `derive_derive_ne`: it is not, if the key starts with a stray letter.
  - `derive_derive_iff`: deriving again changes nothing but in that case, and a name that
    passes as the outermost one passes again as it is.
  - `thorn_not_rederived`: a name that passes once only.
-/

import Decodables.Proofs.Derivation
import Decodables.Proofs.RootName

namespace Decodables.Identifier

variable {style : Style} {key : String} {c : Char} {rest : List Char}

theorem derive_derive_of_kept (h : strip key.toList = c :: rest) (kept : Kept style c) :
    derive style (derive style key) = derive style key := by
  obtain ⟨x, xs, spelling⟩ := List.exists_cons_of_ne_nil (form_ne_nil style c)
  have first : x ∈ (form style c).head? := by
    rw [spelling]
    rfl
  have leads : isLeading x := kept.leading (isLeading_of_strip h) x first
  have fixed : form style x = [x] := form_fixed style c x first
  have named : ∀ d ∈ xs ++ (raise rest).filter isNameChar, isNameChar d := by
    intro d hd
    rcases List.mem_append.mp hd with hd | hd
    · refine kept.spelled d ?_
      rw [spelling]
      exact List.mem_cons_of_mem _ hd
    · exact (List.mem_filter.mp hd).2
  have again : derive style (String.ofList (x :: (xs ++ (raise rest).filter isNameChar))) =
      String.ofList (form style x ++ (xs ++ (raise rest).filter isNameChar)) := derive_of_named leads named
  rw [fixed] at again
  rw [derive_cons h, spelling, List.cons_append, again]
  rfl

/-- The capital of a stray letter is stripped, and what is derived from the rest is shorter
    or starts with another character. -/
theorem derive_derive_ne (h : strip key.toList = c :: rest) (stray : c ∈ strayLetters) :
    derive .pascal (derive .pascal key) ≠ derive .pascal key := by
  obtain ⟨capital, given, unnamed⟩ := stray_form stray
  have unleading : isLeading capital = false := by
    simp only [isNameChar, Bool.or_eq_false_iff] at unnamed
    exact unnamed.1
  have once : derive .pascal key = String.ofList (capital :: (raise rest).filter isNameChar) := by
    rw [derive_cons h, given]
    rfl
  have named : ∀ d ∈ (raise rest).filter isNameChar, isNameChar d := fun d hd => (List.mem_filter.mp hd).2
  generalize (raise rest).filter isNameChar = others at once named
  have passed : strip (String.ofList (capital :: others)).toList = strip others := by
    rw [String.toList_ofList, strip_cons_other unleading]
  intro same
  rw [once] at same
  cases left : strip others with
  | nil =>
    rw [derive_nil (passed.trans left)] at same
    have spelling := congrArg String.toList same
    rw [String.toList_ofList] at spelling
    exact absurd spelling (by simp)
  | cons d more =>
    obtain ⟨dropped, parted⟩ : ∃ dropped, dropped ++ d :: more = others := left ▸ List.dropWhile_suffix _
    have behind : ∀ e ∈ more, isNameChar e := fun e he => named e (by rw [← parted]; simp [he])
    rw [derive_cons (passed.trans left), raise_named behind, List.filter_eq_self.mpr behind, String.ofList_inj,
      ← parted] at same
    have form_eq : form .pascal d = capital :: (dropped ++ [d]) := by
      have : form .pascal d ++ more = (capital :: (dropped ++ [d])) ++ more := by simpa using same
      exact List.append_cancel_right this
    by_cases stray' : d ∈ strayLetters
    · obtain ⟨_, single, _⟩ := stray_form stray'
      rw [form_eq] at single
      simp at single
    · have leads := isLeading_of_strip left
      have kept : Kept .pascal d := (kept_iff (isNameChar_of_isLeading leads)).mpr fun h => stray' h.2
      have leads' := kept.leading leads capital (by rw [form_eq]; rfl)
      rw [unleading] at leads'
      cases leads'

/-- The first character of the key that can lead a name is a stray letter. -/
def StartsStray (key : String) : Prop := ∃ c ∈ key.toList.find? isLeading, c ∈ strayLetters

theorem startsStray_iff (h : strip key.toList = c :: rest) : StartsStray key ↔ c ∈ strayLetters := by
  have first : key.toList.find? isLeading = some c := by
    rw [← strip_head?, h]
    rfl
  simp [StartsStray, first]

theorem derive_derive (style : Style) (key : String) :
    derive style (derive style key) = derive style key ↔ ¬ (style = .pascal ∧ StartsStray key) := by
  cases h : strip key.toList with
  | nil =>
    have none_left : key.toList.find? isLeading = none := by
      rw [← strip_head?, h]
      rfl
    have nothing : derive style "" = "" := derive_nil rfl
    rw [derive_nil h, nothing]
    simp [StartsStray, none_left]
  | cons c rest =>
    rw [startsStray_iff h]
    constructor
    · rintro same ⟨rfl, stray⟩
      exact derive_derive_ne h stray same
    · intro home
      exact derive_derive_of_kept h ((kept_iff (isNameChar_of_isLeading (isLeading_of_strip h))).mpr home)

/-! ## Names of the outermost struct -/

/-- A name that passed passes again just if it is derived from itself. -/
theorem rootName_again_iff {name : String} (passed : Command.rootName key = .ok name) :
    Command.rootName name = .ok name ↔ derive .pascal name = name := by
  obtain ⟨nonempty, unnumbered, free, rfl⟩ := Command.rootName_ok_iff.mp passed
  rw [Command.rootName_ok_iff]
  constructor
  · intro again
    exact again.2.2.2.symm
  · intro same
    rw [same]
    exact ⟨nonempty, unnumbered, free, rfl⟩

/-- Deriving a name from a derived name changes nothing, in camel case for any key, and in
    Pascal case unless the key starts with a stray letter. So a name that passes as the
    outermost one passes again as it is, with the same exception. -/
theorem derive_derive_iff (style : Style) (key : String) :
    (derive style (derive style key) = derive style key ↔ ¬ (style = .pascal ∧ StartsStray key)) ∧
      ∀ name, Command.rootName key = .ok name → (Command.rootName name = .ok name ↔ ¬ StartsStray key) := by
  refine ⟨derive_derive style key, fun name passed => ?_⟩
  have derived : name = derive .pascal key := (Command.rootName_ok_iff.mp passed).2.2.2
  rw [rootName_again_iff passed, derived, derive_derive .pascal key]
  simp

/-- The double thorn passes as its capital, which is refused in turn. -/
theorem thorn_not_rederived :
    derive .pascal (derive .pascal "\ua7d3") ≠ derive .pascal "\ua7d3" ∧
      Command.rootName "\ua7d3" = .ok "\ua7d2" ∧
      Command.rootName "\ua7d2" = .error (.unusableName "\ua7d2") := by
  have once : derive .pascal "\ua7d3" = "\ua7d2" := by decide +kernel
  have again : derive .pascal "\ua7d2" = "" := by decide +kernel
  refine ⟨?_, ?_, ?_⟩
  · rw [once, again]
    decide
  · rw [Command.rootName_ok_iff, once]
    decide +kernel
  · simp [Command.rootName, again]

end Decodables.Identifier
