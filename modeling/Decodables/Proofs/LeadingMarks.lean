/-
  Decodables.Proofs.LeadingMarks — combining marks at the head of names.

  A key is stripped up to the first character that can lead a name. Marks were not meant
  to lead, but those that are alphabetic as well do, vowel signs mostly. The case of the
  style changes this for one of them only: the iota subscript has a capital, and that is a
  letter. No other mark has a form but itself, and no other form starts with a mark.

  What a scope wants differs from the derived name only if that is empty, the wildcard or
  starts with a number, and so with no mark. Thus the law that marks may follow in a name
  but never lead it fails for just these keys, in derived names and in given ones alike.

  Proved, over all keys, both styles and every run of requests:
  - `form_head_mark`: whose form starts with a mark.
  - `derive_startsMark_iff`: which keys derive a name that does.
  - `answer_startsMark_iff`: any scope gives such a name just if such a name is derived.
  - `startsMark_iff_markLed`: so for derived names and for all names that a run is given.
  - `visarga_leads`: a key whose names start with a mark.
-/

import Decodables.Proofs.Derivation
import Decodables.Proofs.NamingRun

namespace Decodables

open Unicode

namespace Identifier

/-! ## Forms that start with a mark -/

/-- The one mark that has a capital, the Greek ypogegrammeni. -/
def iotaSubscript : Char := '\u0345'

def markBits : Nat := rangeBits markRanges

theorem testBit_markBits (c : Char) : markBits.testBit c.toNat = isMark c := by
  have marks : Ascending 0 markRanges := by decide +kernel
  exact testBit_rangeBits marks c.toNat

/-- The form of a character starts with a mark just if the character is one, but for the iota
    subscript in Pascal case. -/
theorem form_head_mark (style : Style) (c : Char) :
    ∀ x ∈ (form style c).head?, isMark x ↔ isMark c ∧ ¬(style = .pascal ∧ c = iotaSubscript) := by
  have expanded : (formExpansions style).all (fun e => !markBits.testBit e.1 &&
      e.2.toList.head?.all fun x => !markBits.testBit x.toNat) := by
    cases style <;> decide +kernel
  have paired : (formRuns style).all (fun r => r.pairs.all fun p => decide p.2.isValidChar &&
      !markBits.testBit p.2 && (!markBits.testBit p.1 || (style == .pascal && p.1 == iotaSubscript.toNat))) := by
    cases style <;> decide +kernel
  intro x hx
  rcases caseForm_cases (formRuns style) (formExpansions style) c with same | ⟨e, he, from_c, h⟩ | ⟨r, hr, p, hp, from_c, h⟩
  · rw [← form_eq] at same
    rw [same] at hx
    cases hx
    have changed : form .pascal iotaSubscript ≠ [iotaSubscript] := by decide +kernel
    have home : ¬(style = .pascal ∧ c = iotaSubscript) := by
      rintro ⟨rfl, rfl⟩
      exact changed same
    exact (and_iff_left home).symm
  · rw [form_eq, h] at hx
    have := List.all_eq_true.mp expanded e he
    rw [from_c, testBit_markBits, Option.mem_def.mp hx, Option.all_some, testBit_markBits] at this
    simp only [Bool.and_eq_true, Bool.not_eq_true'] at this
    simp [this.1, this.2]
  · rw [form_eq, h] at hx
    cases hx
    have := List.all_eq_true.mp (List.all_eq_true.mp paired r hr) p hp
    simp only [Bool.and_eq_true, decide_eq_true_eq, Bool.not_eq_true', Bool.or_eq_true, beq_iff_eq] at this
    obtain ⟨⟨valid, unmarked⟩, source⟩ := this
    have kept : (Char.ofNat p.2).toNat = p.2 := by rw [Char.toNat_ofNat, if_pos valid]
    rw [← kept, testBit_markBits] at unmarked
    rw [from_c, testBit_markBits, Char.toNat_inj] at source
    refine iff_of_false (by simp [unmarked]) fun ⟨marked, home⟩ => ?_
    rcases source with plain | iota
    · rw [marked] at plain
      cases plain
    · exact home iota

/-! ## Derived names that start with a mark -/

def startsMark (name : String) : Bool := name.toList.head?.any isMark

theorem startsMark_of_head {name : String} {c : Char} (h : name.toList.head? = some c) : startsMark name = isMark c := by
  rw [startsMark, h, Option.any_some]

/-- The first character of the key that can lead a name is a mark, and stays one in the case
    of the style. -/
def MarkLed (style : Style) (key : String) : Prop :=
  ∃ c ∈ key.toList.find? isLeading, isMark c ∧ ¬(style = .pascal ∧ c = iotaSubscript)

theorem derive_startsMark_iff (style : Style) (key : String) : startsMark (derive style key) ↔ MarkLed style key := by
  unfold MarkLed
  rw [← strip_head?]
  cases h : strip key.toList with
  | nil =>
    rw [derive_nil h]
    exact iff_of_false (by decide) (by simp)
  | cons c rest =>
    obtain ⟨x, xs, spelling⟩ := List.exists_cons_of_ne_nil (form_ne_nil style c)
    have formed : x ∈ (form style c).head? := by
      rw [spelling]
      rfl
    have first : (derive style key).toList.head? = some x := by
      rw [derive_toList_cons h, spelling]
      rfl
    rw [startsMark_of_head first, form_head_mark style c x formed]
    simp

/-! ## Names that are mended -/

/-- No number is a mark. -/
theorem not_mark_of_numeric {c : Char} (h : isNumeric c) : isMark c = false := by
  have apart : rangeBits numericRanges &&& markBits = 0 := by decide +kernel
  have numbers : Ascending 0 numericRanges := by decide +kernel
  have never := congrArg (·.testBit c.toNat) apart
  simp only [Nat.testBit_and, Nat.zero_testBit, testBit_rangeBits numbers, testBit_markBits] at never
  rwa [show inRanges numericRanges c.toNat = true from h, Bool.true_and] at never

theorem not_startsMark_of_numeric {name : String} (h : startsNumeric name) : startsMark name = false := by
  unfold startsNumeric at h
  cases first : name.toList.head? with
  | none => simp [startsMark, first]
  | some c =>
    rw [first, Option.any_some] at h
    rw [startsMark_of_head first, not_mark_of_numeric h]

/-- What stands behind a name does not show at its head. -/
theorem startsMark_append {name : String} (nonempty : name ≠ "") (more : String) :
    startsMark (name ++ more) = startsMark name := by
  have spelled : name.toList ≠ [] := fun empty => nonempty (String.toList_eq_nil_iff.mp empty)
  rw [startsMark, startsMark, String.toList_append, List.head?_append_of_ne_nil _ spelled]

theorem fallbackName_not_startsMark (style : Style) (position : Nat) : startsMark (fallbackName style position) = false := by
  cases style with
  | camel => exact (startsMark_append (by decide) _).trans (by decide)
  | pascal => exact (startsMark_append (by decide) _).trans (by decide)

end Identifier

/-! ## Given names -/

namespace Scope

open Identifier

theorem wanted_ne_empty (r : Request) : r.wanted ≠ "" := by
  unfold Request.wanted
  by_cases nothing : r.NamesNothing
  · rw [if_pos nothing]
    intro empty
    cases style : r.style <;> simp [fallbackName, style] at empty
  · rw [if_neg nothing]
    obtain ⟨nonempty, _⟩ := not_or.mp nothing
    split
    · simp
    · exact nonempty

/-- Mending neither brings a mark to the head of a name nor takes one away. -/
theorem wanted_startsMark (r : Request) : startsMark r.wanted = startsMark r.derived := by
  unfold Request.wanted
  by_cases nothing : r.NamesNothing
  · rw [if_pos nothing, fallbackName_not_startsMark]
    rcases nothing with empty | wild
    · rw [empty]
      rfl
    · rw [wild]
      rfl
  · rw [if_neg nothing]
    by_cases numeric : startsNumeric r.derived
    · rw [if_pos numeric, startsMark_append (by decide), not_startsMark_of_numeric numeric]
      rfl
    · rw [if_neg numeric]

/-- Whatever a scope holds, the name that it gives starts with a mark just if the derived one
    does. -/
theorem answer_startsMark_iff (s : Scope) (r : Request) :
    startsMark (s.answer r).name ↔ MarkLed r.style r.key := by
  rw [← derive_startsMark_iff, answer_name]
  rcases s.choose_eq_or r.wanted with ⟨_, he⟩ | ⟨_, n, _, he, _⟩
  · rw [he, wanted_startsMark]
    exact .rfl
  · rw [he, startsMark_append (wanted_ne_empty r), wanted_startsMark]
    exact .rfl

theorem run_startsMark_iff (s : Scope) (requests : List Request) :
    List.Forall₂ (fun r c => startsMark c.name ↔ MarkLed r.style r.key) requests (s.answers requests) := by
  induction requests generalizing s with
  | nil => exact .nil
  | cons r rest ih => exact .cons (s.answer_startsMark_iff r) (ih _)

/-- A derived name starts with a mark just if the first character of the key that can lead a
    name is one, which stays a mark in the case of the style. On any scope, so on a fresh one,
    the same holds of every name that a run of requests is given. -/
theorem startsMark_iff_markLed (style : Style) (key : String) (s : Scope) (requests : List Request) :
    (startsMark (derive style key) ↔ MarkLed style key) ∧
      List.Forall₂ (fun r c => startsMark c.name ↔ MarkLed r.style r.key) requests (s.answers requests) :=
  ⟨derive_startsMark_iff style key, run_startsMark_iff s requests⟩

/-- The Devanagari visarga is a mark, and leads the names of a key that it leads: the derived
    ones of both styles, and those of a member and of a type. -/
theorem visarga_leads :
    (derive .camel "\u0903a" = "\u0903a" ∧ startsMark (derive .camel "\u0903a")) ∧
      (derive .pascal "\u0903a" = "\u0903a" ∧ startsMark (derive .pascal "\u0903a")) ∧
      ((initial.answers [⟨.camel, "\u0903a", 1, "$"⟩, ⟨.pascal, "\u0903a", 1, "$"⟩]).map fun c =>
        (c.name, startsMark c.name)) = [("\u0903a", true), ("\u0903a2", true)] := by
  decide +kernel

end Scope

end Decodables
