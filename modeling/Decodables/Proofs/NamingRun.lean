/-
  Decodables.Proofs.NamingRun — what a scope answers, request after request.

  A request wants one name: the derived one if it can stand as it is, else a mended one.
  It gets that name unless the name is reserved or was given before, and then the name
  with the least number behind it that is neither. At every time a scope holds the
  reserved names and the names it gave, and nothing else, also where a later key wants
  what a number or a position made of an earlier one.

  Proved, over every run of requests of both styles:
  - `answer_granted`: what any scope answers to one request, with all there is to report.
  - `taken_afterAll`: what a scope holds after a run.
  - `answers_granted`: on a fresh scope every request of a run is answered so, as to the
    reserved names and those given before it; all names given differ.
-/

import Decodables.Proofs.FreshName

namespace Decodables.Scope

open Identifier (Style derive reservedTypeNames)

/-! ## Requests -/

structure Request where
  style : Style
  key : String
  position : Nat
  path : String
  deriving DecidableEq, Repr

namespace Request

def derived (r : Request) : String := derive r.style r.key

def NamesNothing (r : Request) : Prop := r.derived = "" ∨ r.derived = "_"

instance : DecidablePred NamesNothing := fun r => inferInstanceAs (Decidable (r.derived = "" ∨ r.derived = "_"))

/-- The name that is asked for: one by the position if the derived one names nothing, and
    the derived one behind an underscore if that starts with a number. -/
def wanted (r : Request) : String :=
  if r.NamesNothing then fallbackName r.style r.position
  else if startsNumeric r.derived then "_" ++ r.derived
  else r.derived

/-- What is wanted is the derived name, if that names something and does not start with a
    number. -/
theorem wanted_eq_derived_iff {r : Request} (h : ¬ r.NamesNothing) :
    r.wanted = r.derived ↔ startsNumeric r.derived = false := by
  rw [wanted, if_neg h]
  split
  · rename_i numeric
    refine iff_of_false (fun he => ?_) (by simp [numeric])
    exact absurd (String.append_eq_right_iff.mp he) (by decide)
  · rename_i numeric
    simpa using numeric

end Request

/-- An answer to a request as it should be while some names are in use. -/
structure Granted (used : List String) (r : Request) (c : Claim) : Prop where
  /-- A name that is not in use is given as it is wanted. -/
  kept : r.wanted ∉ used → c.name = r.wanted
  /-- A name in use is given with the least number from 2 on behind it that makes it new.
      The number is at most one more than there are names in use. -/
  numbered : r.wanted ∈ used → ∃ n ≥ 2, c.name = r.wanted ++ toString n ∧ c.name ∉ used ∧
    (∀ m, 2 ≤ m → m < n → r.wanted ++ toString m ∈ used) ∧ n ≤ used.length + 1
  /-- A name by the position is reported, and then a number behind the wanted name. -/
  reported : c.warnings =
    (if r.NamesNothing then [⟨r.path, .emptyIdentifier r.key r.wanted⟩] else []) ++
      (if c.name = r.wanted then [] else [⟨r.path, .collision r.key r.wanted c.name⟩])

/-- It is all the same in which order the names came into use. -/
theorem Granted.perm {used others : List String} {r : Request} {c : Claim} (h : Granted used r c)
    (p : used.Perm others) : Granted others r c := by
  refine ⟨fun free => h.kept fun hw => free (p.mem_iff.mp hw), fun hw => ?_, h.reported⟩
  obtain ⟨n, two, he, free, least, bound⟩ := h.numbered (p.mem_iff.mpr hw)
  exact ⟨n, two, he, fun hn => free (p.mem_iff.mpr hn), fun m hm hmn => p.mem_iff.mp (least m hm hmn),
    p.length_eq ▸ bound⟩

/-- A name is given as it is wanted just if it is not in use. -/
theorem Granted.name_eq_iff {used : List String} {r : Request} {c : Claim} (h : Granted used r c) :
    c.name = r.wanted ↔ r.wanted ∉ used := by
  refine ⟨fun he hw => ?_, h.kept⟩
  obtain ⟨n, _, numbered, _⟩ := h.numbered hw
  exact append_toString_ne r.wanted n (numbered.symm.trans he)

/-- There is nothing to report just if the derived name names something, and what is wanted
    for it is not in use. -/
theorem Granted.silent_iff {used : List String} {r : Request} {c : Claim} (h : Granted used r c) :
    c.warnings = [] ↔ ¬ r.NamesNothing ∧ r.wanted ∉ used := by
  rw [h.reported, List.append_eq_nil_iff, ← h.name_eq_iff]
  refine and_congr ?_ ?_
  · split <;> simp_all
  · split <;> simp_all

/-! ## One request -/

def answer (s : Scope) (r : Request) : Claim := s.claim r.style r.key r.position r.path

theorem ofKey_wanted (r : Request) : (Wish.ofKey r.style r.key r.position).name = r.wanted :=
  Wish.ofKey_name r.style r.key r.position

theorem answer_name (s : Scope) (r : Request) : (s.answer r).name = s.choose r.wanted :=
  congrArg s.choose (ofKey_wanted r)

theorem answer_scope (s : Scope) (r : Request) : (s.answer r).scope = s.take (s.answer r).name := rfl

/-- A wish by the position is reported with the name that is wished for. -/
theorem ofKey_causes (r : Request) : (Wish.ofKey r.style r.key r.position).causes =
    if r.NamesNothing then [.emptyIdentifier r.key r.wanted] else [] := by
  rw [← ofKey_wanted]
  unfold Wish.ofKey Request.NamesNothing Request.derived
  dsimp only
  split
  · rfl
  · split <;> rfl

theorem answer_warnings (s : Scope) (r : Request) : (s.answer r).warnings =
    (if r.NamesNothing then [⟨r.path, .emptyIdentifier r.key r.wanted⟩] else []) ++
      (if (s.answer r).name = r.wanted then [] else [⟨r.path, .collision r.key r.wanted (s.answer r).name⟩]) := by
  simp only [answer, claim, List.map_append, ofKey_causes, ofKey_wanted]
  refine congrArg₂ (· ++ ·) ?_ ?_
  · split <;> rfl
  · split <;> rfl

/-- Any scope answers a request as it should while the names it holds are in use. -/
theorem answer_granted (s : Scope) (r : Request) : Granted s.taken r (s.answer r) := by
  rcases s.choose_eq_or r.wanted with ⟨free, he⟩ | ⟨taken, n, two, he, free, least⟩
  · exact ⟨fun _ => (s.answer_name r).trans he, fun taken => absurd taken free, s.answer_warnings r⟩
  · refine ⟨fun free => absurd taken free, fun _ => ?_, s.answer_warnings r⟩
    have given : (s.answer r).name = r.wanted ++ toString n := (s.answer_name r).trans he
    refine ⟨n, two, given, given ▸ free, least, ?_⟩
    -- otherwise the wanted name and as many candidates as names are held would all be held
    by_contra many
    exact candidates_not_all_taken taken 2 fun i hi => least (2 + i) (by omega) (by omega)

/-! ## Runs of requests -/

def answers (s : Scope) : List Request → List Claim
  | [] => []
  | r :: rest => s.answer r :: (s.answer r).scope.answers rest

def afterAll (s : Scope) : List Request → Scope
  | [] => s
  | r :: rest => (s.answer r).scope.afterAll rest

@[simp] theorem length_answers (s : Scope) (requests : List Request) :
    (s.answers requests).length = requests.length := by
  induction requests generalizing s with
  | nil => rfl
  | cons r rest ih => simp only [answers, List.length_cons, ih]

theorem answers_append (s : Scope) (before after : List Request) :
    s.answers (before ++ after) = s.answers before ++ (s.afterAll before).answers after := by
  induction before generalizing s with
  | nil => rfl
  | cons r rest ih => simp only [List.cons_append, answers, afterAll, ih]

/-- A scope holds what it held before a run, and the names that it gave in the run. -/
theorem taken_afterAll (s : Scope) (requests : List Request) :
    (s.afterAll requests).taken.Perm (s.taken ++ (s.answers requests).map (·.name)) := by
  induction requests generalizing s with
  | nil => simp [afterAll, answers]
  | cons r rest ih =>
    simp only [afterAll, answers, List.map_cons]
    refine (ih _).trans ?_
    rw [answer_scope, taken_take]
    exact List.perm_middle.symm

theorem answers_issued (s : Scope) (requests : List Request) : Issued s ((s.answers requests).map (·.name)) := by
  induction requests generalizing s with
  | nil => exact ⟨List.nodup_nil, fun n hn => by cases hn⟩
  | cons r rest ih =>
    have free : (s.answer r).name ∉ s.taken := s.answer_name r ▸ s.choose_free r.wanted
    exact Issued.cons free (ih _)

/-- On a fresh scope every request of a run is answered, with the names in use being the
    reserved ones and those given to the requests before it. So the names given all differ,
    and none is reserved. A number behind a name is at most one more than there are names in
    use, so 32 bits hold it as long as the requests are fewer than 2^32 less the reserved
    names. -/
theorem answers_granted (requests : List Request) :
    (initial.answers requests).length = requests.length ∧
      (∀ before r after, requests = before ++ r :: after →
        ∃ c later, initial.answers requests = initial.answers before ++ c :: later ∧
          Granted (reservedTypeNames ++ (initial.answers before).map (·.name)) r c) ∧
      ((initial.answers requests).map (·.name)).Nodup ∧
      ∀ c ∈ initial.answers requests, c.name ∉ reservedTypeNames := by
  have issued := initial.answers_issued requests
  refine ⟨initial.length_answers requests, ?_, issued.1, fun c hc => issued.2 _ (List.mem_map.mpr ⟨c, hc, rfl⟩)⟩
  rintro before r after rfl
  refine ⟨_, _, initial.answers_append before (r :: after), ?_⟩
  exact ((initial.afterAll before).answer_granted r).perm (initial.taken_afterAll before)

/-- Requests of which the second takes the name that the third would get with a 2. -/
def userNames : List Request :=
  [⟨.camel, "user name", 1, "$[\"user name\"]"⟩, ⟨.camel, "userName2", 2, "$.userName2"⟩,
   ⟨.camel, "userName", 3, "$.userName"⟩, ⟨.pascal, "coding keys", 4, "$[\"coding keys\"]"⟩,
   ⟨.pascal, "_", 5, "$._"⟩, ⟨.camel, "1st", 6, "$[\"1st\"]"⟩]

theorem userNames_granted :
    userNames = userNames.take 2 ++ ⟨.camel, "userName", 3, "$.userName"⟩ :: userNames.drop 3 ∧
      ∃ c later, initial.answers userNames = initial.answers (userNames.take 2) ++ c :: later ∧
        Granted (reservedTypeNames ++ (initial.answers (userNames.take 2)).map (·.name))
          ⟨.camel, "userName", 3, "$.userName"⟩ c ∧
        c.name = "userName3" ∧ c.warnings = [⟨"$.userName", .collision "userName" "userName" "userName3"⟩] := by
  have split : userNames = userNames.take 2 ++ ⟨.camel, "userName", 3, "$.userName"⟩ :: userNames.drop 3 := by rfl
  obtain ⟨c, later, he, granted⟩ := (answers_granted userNames).2.1 _ _ _ split
  have third : (initial.answers userNames)[2]? = some c := by rw [he]; rfl
  have named : (initial.answers userNames)[2]?.map (fun c => (c.name, c.warnings)) =
      some ("userName3", [⟨"$.userName", .collision "userName" "userName" "userName3"⟩]) := by rfl
  rw [third, Option.map_some, Option.some.injEq, Prod.mk.injEq] at named
  exact ⟨split, c, later, he, granted, named.1, named.2⟩

end Decodables.Scope
