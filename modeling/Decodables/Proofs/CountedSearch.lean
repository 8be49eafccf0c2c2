/-
  Decodables.Proofs.CountedSearch — a machine word is enough to number names.

  The search for a free name may be run as a loop: as long as the name it looks at is taken, it
  looks at the wanted name with a number behind it next, and counts up. It never looks at one
  name twice, so each turn uses up a taken name, and the loop ends after at most as many turns
  as there are taken names. A counter of 32 bits that starts with 2 has room for all of them as
  long as the taken names are fewer than 2^32 - 2.

  Proved, over every set of taken names and every wanted name:
  - `Ends.unique`: a search ends in one way at most.
  - `ends_numbered`: as long as the counter has room, a search ends at the first candidate that
    is free, one turn for each one before it.
  - `not_ends_of_taken`: it does not end if the room is used up before, which takes 2^32 - 2
    names, so the bound is sharp.
  - `claim_counted`: with fewer taken names than that, the search by a machine word and the one
    without a bound end alike, with the name that the scope gives.
-/

import Mathlib.Algebra.Group.Nat.Defs
import Mathlib.Data.Finset.Card
import Decodables.Proofs.NamingRun

namespace Decodables.Scope

/-! ## Counters -/

structure Counter (ν : Type) where
  /-- The number that a reading stands for. -/
  value : ν → Nat
  /-- The next reading, unless the counter would overflow. -/
  up? : ν → Option ν
  value_up : ∀ {n m}, up? n = some m → value m = value n + 1

namespace Counter

def unbounded : Counter Nat := ⟨id, fun n => some (n + 1), fun h => by cases h; rfl⟩

def word : Counter UInt32 where
  value := UInt32.toNat
  up? n := if n.toNat + 1 < 2 ^ 32 then some (n + 1) else none
  value_up := by
    intro n m h
    split at h
    · rename_i room
      cases h
      rw [UInt32.toNat_add, UInt32.toNat_one]
      exact Nat.mod_eq_of_lt room
    · cases h

def Covers {ν : Type} (c : Counter ν) (limit : Nat) : Prop := ∀ n, c.value n < limit → ∃ m, c.up? n = some m

theorem unbounded_covers (limit : Nat) : unbounded.Covers limit := fun n _ => ⟨n + 1, rfl⟩

theorem word_covers {limit : Nat} (h : limit < 2 ^ 32) : word.Covers limit := by
  intro n below
  have room : n.toNat + 1 < 2 ^ 32 := Nat.lt_of_le_of_lt below h
  exact ⟨n + 1, if_pos room⟩

end Counter

/-! ## Searches -/

structure Search (ν : Type) where
  candidate : String
  /-- The number that is next to go behind the wanted name. -/
  next : ν

/-- The search ends after so many turns, there. While the candidate is taken, the next one is
    the wanted name with the number behind it, and the counter goes up. -/
inductive Ends {ν : Type} (c : Counter ν) (taken : List String) (wanted : String) : Nat → Search ν → Search ν → Prop
  | free {s : Search ν} : s.candidate ∉ taken → Ends c taken wanted 0 s s
  | turn {s last : Search ν} {up : ν} {turns : Nat} : s.candidate ∈ taken → c.up? s.next = some up →
      Ends c taken wanted turns ⟨wanted ++ toString (c.value s.next), up⟩ last →
      Ends c taken wanted (turns + 1) s last

variable {ν : Type} {c : Counter ν} {taken : List String} {wanted : String}

theorem Ends.unique {s last last' : Search ν} {turns turns' : Nat} (h : Ends c taken wanted turns s last)
    (h' : Ends c taken wanted turns' s last') : turns' = turns ∧ last' = last := by
  induction h generalizing turns' with
  | free free =>
    cases h' with
    | free => exact ⟨rfl, rfl⟩
    | turn held => exact absurd held free
  | turn held up _ ih =>
    cases h' with
    | free free => exact absurd held free
    | turn _ up' rest =>
      obtain rfl := Option.some.inj (up.symm.trans up')
      obtain ⟨rfl, rfl⟩ := ih rest
      exact ⟨rfl, rfl⟩

/-- Each turn counts up by one. -/
theorem Ends.value {s last : Search ν} {turns : Nat} (h : Ends c taken wanted turns s last) :
    c.value last.next = c.value s.next + turns := by
  induction h with
  | free => rfl
  | turn _ up _ ih =>
    rw [ih, c.value_up up]
    omega

/-- A search from a taken candidate on goes through the numbers up to the first one that makes
    the wanted name free. -/
theorem ends_numbered {k limit : Nat} {candidate : String} {n : ν} (covers : c.Covers limit)
    (room : c.value n + k < limit) (held : candidate ∈ taken)
    (before : ∀ i < k, wanted ++ toString (c.value n + i) ∈ taken) (free : wanted ++ toString (c.value n + k) ∉ taken) :
    ∃ last, Ends c taken wanted (k + 1) ⟨candidate, n⟩ ⟨wanted ++ toString (c.value n + k), last⟩ := by
  obtain ⟨up, counted⟩ := covers n (by omega)
  induction k generalizing candidate n up with
  | zero => exact ⟨up, .turn held counted (.free free)⟩
  | succ k ih =>
    have value := c.value_up counted
    have shift : ∀ i, c.value n + (i + 1) = c.value up + i := by omega
    have first : wanted ++ toString (c.value n) ∈ taken := before 0 (by omega)
    obtain ⟨up', counted'⟩ := covers up (by omega)
    rw [shift] at room free ⊢
    obtain ⟨last, ends⟩ := ih room first (fun i hi => shift i ▸ before (i + 1) (by omega)) free up' counted'
    exact ⟨last, .turn held counted ends⟩

/-- A search by a machine word does not end if the wanted name and all names are taken that it
    has numbers for, but the greatest number. -/
theorem not_ends_of_taken {s last : Search UInt32} {turns : Nat} (held : s.candidate ∈ taken)
    (all : ∀ n, s.next.toNat ≤ n → n < 2 ^ 32 - 1 → wanted ++ toString n ∈ taken) :
    ¬ Ends .word taken wanted turns s last := by
  intro ends
  induction ends with
  | free free => exact free held
  | @turn s _ up _ _ counted _ ih =>
    have value : up.toNat = s.next.toNat + 1 := Counter.word.value_up counted
    have below : s.next.toNat < 2 ^ 32 - 1 := by
      have := up.toNat_lt
      omega
    have later : s.next.toNat ≤ up.toNat := by omega
    exact ih (all s.next.toNat (Nat.le_refl _) below) fun n least => all n (Nat.le_trans later least)

/-! ## Scopes -/

theorem toFinset_take (s : Scope) (name : String) : (s.take name).taken.toFinset = insert name s.taken.toFinset :=
  List.toFinset_cons

/-- There is a number of turns, at most as many as there are taken names, after which every
    search ends whose counter covers them. It ends with the name that the scope gives. -/
theorem search_ends (s : Scope) (wanted : String) : ∃ turns ≤ s.taken.toFinset.card,
    ∀ {ν : Type} (c : Counter ν) (start : ν) {limit : Nat}, c.value start = 2 → c.Covers limit →
      s.taken.toFinset.card + 2 ≤ limit → ∃ n, Ends c s.taken wanted turns ⟨wanted, start⟩ ⟨s.choose wanted, n⟩ := by
  rcases s.choose_eq_or wanted with ⟨free, he⟩ | ⟨taken, n, two, he, free, least⟩
  · refine ⟨0, Nat.zero_le _, fun c start limit _ _ _ => ⟨start, ?_⟩⟩
    rw [he]
    exact .free free
  · have bound : n ≤ s.taken.toFinset.card + 1 := by
      -- otherwise the wanted name and as many candidates as names are taken would all be taken
      rw [List.card_toFinset]
      by_contra many
      exact candidates_not_all_taken (List.mem_dedup.mpr taken) 2 fun i hi =>
        List.mem_dedup.mpr (least (2 + i) (by omega) (by omega))
    obtain ⟨k, rfl⟩ := Nat.exists_eq_add_of_le two
    refine ⟨k + 1, by omega, fun c start limit first covers room => ?_⟩
    rw [he, ← first]
    rw [← first] at free
    exact ends_numbered covers (by omega) taken (fun i hi => least _ (by omega) (by omega)) free

/-- With fewer than 2^32 - 2 names taken, the search by a machine word ends, after at most as
    many turns as names are taken, and has not counted beyond 2^32 - 1 then. The search without
    a bound ends after as many turns with the same name. It is the one that the scope gives:
    it was not taken before, and it alone is afterwards that was not. -/
theorem claim_counted (s : Scope) (wanted : String) (few : s.taken.toFinset.card < 2 ^ 32 - 2) :
    ∃ turns ≤ s.taken.toFinset.card, ∃ counted : UInt32, counted.toNat = turns + 2 ∧ turns + 2 ≤ 2 ^ 32 - 1 ∧
      (∀ k last, Ends .word s.taken wanted k ⟨wanted, 2⟩ last ↔ k = turns ∧ last = ⟨s.choose wanted, counted⟩) ∧
      (∀ k last, Ends .unbounded s.taken wanted k ⟨wanted, 2⟩ last ↔ k = turns ∧ last = ⟨s.choose wanted, turns + 2⟩) ∧
      s.choose wanted ∉ s.taken ∧ (s.take (s.choose wanted)).taken.toFinset = insert (s.choose wanted) s.taken.toFinset ∧
      ∀ r : Request, r.wanted = wanted →
        (s.answer r).name = s.choose wanted ∧ (s.answer r).scope = s.take (s.choose wanted) := by
  obtain ⟨turns, bound, ends⟩ := s.search_ends wanted
  obtain ⟨counted, byWord⟩ := ends .word 2 rfl (Counter.word_covers (by omega)) (Nat.le_refl _)
  obtain ⟨n, unbounded⟩ := ends .unbounded 2 rfl (Counter.unbounded_covers _) (Nat.le_refl _)
  have value : counted.toNat = 2 + turns := byWord.value
  obtain rfl : n = turns + 2 := unbounded.value.trans (Nat.add_comm 2 turns)
  refine ⟨turns, bound, counted, by omega, by omega, fun k last => ⟨byWord.unique, ?_⟩, fun k last => ⟨unbounded.unique, ?_⟩,
    s.choose_free wanted, s.toFinset_take _, ?_⟩
  · rintro ⟨rfl, rfl⟩
    exact byWord
  · rintro ⟨rfl, rfl⟩
    exact unbounded
  · rintro r rfl
    rw [answer_scope, answer_name]
    exact ⟨rfl, rfl⟩

def crowded : Scope := ⟨["userName22", "userName2", "userName", "userName3", "userName2"] ++ initial.taken⟩

theorem crowded_counted :
    crowded.taken.toFinset.card < 2 ^ 32 - 2 ∧
      (∀ k last, Ends .word crowded.taken "userName2" k ⟨"userName2", 2⟩ last ↔ k = 2 ∧ last = ⟨"userName23", 4⟩) ∧
      (∀ k last, Ends .unbounded crowded.taken "userName2" k ⟨"userName2", 2⟩ last ↔ k = 2 ∧ last = ⟨"userName23", 4⟩) ∧
      (crowded.take "userName23").taken.toFinset = insert "userName23" crowded.taken.toFinset := by
  have few : crowded.taken.toFinset.card < 2 ^ 32 - 2 := Nat.lt_of_le_of_lt (List.toFinset_card_le _) (by decide)
  have given : crowded.choose "userName2" = "userName23" := by decide +kernel
  have run : Ends .word crowded.taken "userName2" 2 ⟨"userName2", 2⟩ ⟨"userName23", 4⟩ :=
    .turn (by decide +kernel) rfl (.turn (by decide +kernel) rfl (.free (by decide +kernel)))
  obtain ⟨turns, -, counted, -, -, byWord, unbounded, -, taken, -⟩ := claim_counted crowded "userName2" few
  obtain ⟨rfl, same⟩ := (byWord _ _).mp run
  rw [given] at same byWord unbounded taken
  rw [← same] at byWord
  exact ⟨few, byWord, unbounded, taken⟩

end Decodables.Scope
