/-
  Decodables.Proofs.FreshName — the name that a scope gives is free.

  A wanted name that is taken is tried with 2, 3, … behind it. The candidates differ
  from each other and from the wanted name, so the taken names cannot hold all of them.

  Proved, over every scope and every wanted name:
  - `choose_eq_or`: the wanted name if it is free, else the one with the least number from
    2 on that is free.
  - `choose_free`: the name given was not taken.
  - `Issued.cons`: so names given one after the other are new, and none is given twice.
-/

import Mathlib.Data.List.Nodup
import Mathlib.Data.List.Perm.Subperm
import Decodables.Scope

namespace Decodables

/-! ## Numbered names -/

/-- The number behind a name can be read off the whole. -/
theorem append_toString_inj (wanted : String) {m n : Nat} :
    wanted ++ toString m = wanted ++ toString n ↔ m = n := by
  refine ⟨fun h => ?_, fun h => by rw [h]⟩
  have digits : Nat.toDigits 10 m = Nat.toDigits 10 n := by
    rw [← String.toList_inj, String.toList_append, String.toList_append] at h
    simpa only [Nat.toString_eq_repr, Nat.toList_repr] using List.append_cancel_left h
  calc
    m = Nat.ofDigitChars 10 (Nat.toDigits 10 m) 0 := Nat.ofDigitChars_ten_toDigits.symm
    _ = n := by rw [digits, Nat.ofDigitChars_ten_toDigits]

theorem append_toString_ne (wanted : String) (n : Nat) : wanted ++ toString n ≠ wanted := by
  rw [Ne, String.append_eq_left_iff, Nat.toString_eq_repr]
  exact Nat.repr_ne_empty

/-! ## Wishes -/

/-- A key wishes for a name by its position, for the derived name behind an underscore, or
    for the derived name. -/
theorem Wish.ofKey_name (style : Identifier.Style) (key : String) (position : Nat) :
    (Wish.ofKey style key position).name =
      if Identifier.derive style key = "" ∨ Identifier.derive style key = "_" then fallbackName style position
      else if startsNumeric (Identifier.derive style key) then "_" ++ Identifier.derive style key
      else Identifier.derive style key := by
  unfold Wish.ofKey
  dsimp only
  split
  · rfl
  · split <;> rfl

namespace Scope

/-! ## The first free candidate -/

/-- The search ends at a candidate that comes after taken ones only, and that is free
    unless the tries ran out. -/
theorem firstFree_spec (taken : List String) (wanted : String) : ∀ tries n,
    ∃ k ≤ tries, firstFree taken wanted tries n = wanted ++ toString (n + k) ∧
      (∀ i < k, wanted ++ toString (n + i) ∈ taken) ∧
      (k < tries → wanted ++ toString (n + k) ∉ taken) := by
  intro tries
  induction tries with
  | zero => intro n; exact ⟨0, Nat.le_refl 0, rfl, fun i hi => absurd hi (by omega), fun h => absurd h (by omega)⟩
  | succ tries ih =>
    intro n
    simp only [firstFree, List.contains_iff_mem]
    by_cases h : wanted ++ toString n ∈ taken
    · rw [if_pos h]
      obtain ⟨k, hk, he, hbefore, hfree⟩ := ih (n + 1)
      refine ⟨k + 1, by omega, ?_, fun i hi => ?_, fun hlt => ?_⟩
      · rw [he]; congr 2; omega
      · cases i with
        | zero => exact h
        | succ i => have := hbefore i (by omega); rwa [show n + 1 + i = n + (i + 1) by omega] at this
      · have := hfree (by omega); rwa [show n + 1 + k = n + (k + 1) by omega] at this
    · rw [if_neg h]
      exact ⟨0, by omega, rfl, fun i hi => absurd hi (by omega), fun _ => h⟩

/-- Not all of as many candidates as there are taken names can be taken, if the wanted
    name is. -/
theorem candidates_not_all_taken {taken : List String} {wanted : String} (h : wanted ∈ taken) (n : Nat) :
    ¬ ∀ i < taken.length, wanted ++ toString (n + i) ∈ taken := by
  intro all
  let candidates := (List.range taken.length).map fun i => wanted ++ toString (n + i)
  have distinct : (wanted :: candidates).Nodup := by
    refine List.nodup_cons.mpr ⟨fun hw => ?_, ?_⟩
    · obtain ⟨i, _, hi⟩ := List.mem_map.mp hw
      exact append_toString_ne wanted (n + i) hi
    · refine List.Nodup.map (fun i j hij => ?_) List.nodup_range
      have := (append_toString_inj wanted).mp hij
      omega
  have held : wanted :: candidates ⊆ taken := by
    intro x hx
    rcases List.mem_cons.mp hx with rfl | hx
    · exact h
    · obtain ⟨i, hi, rfl⟩ := List.mem_map.mp hx
      exact all i (List.mem_range.mp hi)
  have := (distinct.subperm held).length_le
  simp only [candidates, List.length_cons, List.length_map, List.length_range] at this
  omega

/-- A free name is given as it is, a taken one with the least number behind it, from 2 on,
    that makes it free. -/
theorem choose_eq_or (s : Scope) (wanted : String) :
    (wanted ∉ s.taken ∧ s.choose wanted = wanted) ∨
      (wanted ∈ s.taken ∧ ∃ n ≥ 2, s.choose wanted = wanted ++ toString n ∧ wanted ++ toString n ∉ s.taken ∧
        ∀ m, 2 ≤ m → m < n → wanted ++ toString m ∈ s.taken) := by
  by_cases h : wanted ∈ s.taken
  · right
    obtain ⟨k, hk, he, hbefore, hfree⟩ := firstFree_spec s.taken wanted s.taken.length 2
    refine ⟨h, 2 + k, by omega, ?_, ?_, fun m h2 hm => ?_⟩
    · simpa only [choose, List.contains_iff_mem, h, if_true] using he
    · rcases Nat.lt_or_eq_of_le hk with lt | rfl
      · exact hfree lt
      · exact absurd hbefore (candidates_not_all_taken h 2)
    · have := hbefore (m - 2) (by omega)
      rwa [show 2 + (m - 2) = m by omega] at this
  · left
    exact ⟨h, by simp [choose, h]⟩

theorem choose_free (s : Scope) (wanted : String) : s.choose wanted ∉ s.taken := by
  rcases s.choose_eq_or wanted with ⟨h, he⟩ | ⟨_, n, _, he, h, _⟩
  · rwa [he]
  · rwa [he]

/-! ## Taking names -/

@[simp] theorem taken_take (s : Scope) (name : String) : (s.take name).taken = name :: s.taken := rfl

end Scope

/-- What a scope has given, one name after the other: names it did not hold, none twice. -/
def Issued (s : Scope) (names : List String) : Prop := names.Nodup ∧ ∀ n ∈ names, n ∉ s.taken

theorem Issued.perm {s : Scope} {as bs : List String} (h : Issued s as) (p : bs.Perm as) : Issued s bs :=
  ⟨p.nodup_iff.mpr h.1, fun n hn => h.2 n (p.mem_iff.mp hn)⟩

/-- A free name in front of what the scope gave after it was taken. -/
theorem Issued.cons {s : Scope} {name : String} {names : List String} (free : name ∉ s.taken)
    (h : Issued (s.take name) names) : Issued s (name :: names) := by
  refine ⟨List.nodup_cons.mpr ⟨fun hn => h.2 name hn (List.mem_cons_self ..), h.1⟩, fun n hn => ?_⟩
  rcases List.mem_cons.mp hn with rfl | hn
  · exact free
  · exact fun ht => h.2 n hn (List.mem_cons_of_mem _ ht)

end Decodables
