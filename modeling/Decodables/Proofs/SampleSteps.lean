/-
  Decodables.Proofs.SampleSteps — what each step of a sample that succeeds does, and what it
  reports.

  A sample of a container that is not too deep goes on with what it holds. An array is reported
  before its first element is looked at, an object asks for the name of its struct before its
  entries are, and an entry for the name of its member before its value is. What is reported on
  the way is kept in this order.

  Proved, over every limit, scope and path, of each step that succeeds:
  - `sampleType_empty_ok`, `sampleType_array_ok`, `sampleType_object_ok`: the steps into values.
  - `sampleMembers_cons_run`: the step from one entry to the next.
  - `ofSample_run`: the first step.
-/

import Decodables.Proofs.Sampling

namespace Decodables

open Json (Value)

/-! ## Warnings of reports that go on -/

namespace Report

variable {α β : Type}

/-- A report that goes on has the warnings of both parts. -/
theorem bind_warnings {r : Report α} {f : α → Report β} {a : α} (h : r.outcome = .ok a) :
    (r >>= f).warnings = r.warnings ++ (f a).warnings := by
  show (andThen r f).warnings = _
  rw [andThen, h]

theorem warn_bind_warnings (warnings : List Warning) (a : α) (f : α → Report β) :
    (warn warnings a >>= f).warnings = warnings ++ (f a).warnings := rfl

/-- What is made of an outcome in the end adds no warning, be there one or not. -/
theorem bind_pure_warnings (r : Report α) (g : α → β) : (r >>= fun a => pure (g a)).warnings = r.warnings := by
  show (andThen r fun a => ok (g a)).warnings = _
  unfold andThen
  split
  · rfl
  · exact List.append_nil _

/-- A guard that lets a report pass is not seen in it. -/
theorem guard_ok {limit : Nat} {path : Path} {r : Report α} {a : α} (h : (do guardDepth limit path; r).outcome = .ok a) :
    (do guardDepth limit path; r) = r := by
  obtain ⟨_, allowed, _⟩ := bind_ok.mp h
  unfold guardDepth at allowed ⊢
  split at allowed
  · rename_i within
    rw [if_pos within]
    rfl
  · cases allowed

end Report

/-! ## Steps -/

variable {limit position : Nat} {naming after : Naming} {scope : Scope} {path : Path} {t : MemberType}

theorem sampleType_empty_ok (h : (sampleType limit naming path (.array [])).outcome = .ok (t, after)) :
    t = .array .unknown ∧ after = naming ∧
      (sampleType limit naming path (.array [])).warnings = arrayWarnings path [] := by
  simp only [sampleType] at h ⊢
  have passed := Report.guard_ok h
  rw [passed] at h ⊢
  cases h
  exact ⟨rfl, rfl, rfl⟩

/-- An array is typed by its first element, after what there is to report of it. -/
theorem sampleType_array_ok {first : Value} {rest : List Value}
    (h : (sampleType limit naming path (.array (first :: rest))).outcome = .ok (t, after)) :
    ∃ element, (sampleType limit naming (path.index 0) first).outcome = .ok (element, after) ∧ t = .array element ∧
      (sampleType limit naming path (.array (first :: rest))).warnings =
        arrayWarnings path (first :: rest) ++ (sampleType limit naming (path.index 0) first).warnings := by
  simp only [sampleType, sampleElement] at h ⊢
  have passed := Report.guard_ok h
  rw [passed] at h ⊢
  obtain ⟨⟨element, _⟩, inner, done⟩ := Report.bind_ok.mp h
  obtain ⟨_, _, typed⟩ := Report.bind_ok.mp inner
  cases done
  exact ⟨element, typed, rfl, by rw [Report.bind_pure_warnings, Report.warn_bind_warnings]⟩

/-- An object is a struct by the name that the scope around it gives, and its entries ask a
    fresh scope for names. -/
theorem sampleType_object_ok {entries : List (String × Value)}
    (h : (sampleType limit naming path (.object entries)).outcome = .ok (t, after)) :
    ∃ claim members, claim = naming.scope.claim .pascal naming.key naming.position path.text ∧
      (sampleMembers limit .initial 1 path entries).outcome = .ok members ∧ t = .declared claim.name members ∧
      after = { naming with scope := claim.scope } ∧
      (sampleType limit naming path (.object entries)).warnings =
        claim.warnings ++ (sampleMembers limit .initial 1 path entries).warnings := by
  simp only [sampleType, Naming.claim] at h ⊢
  have passed := Report.guard_ok h
  rw [passed] at h ⊢
  obtain ⟨_, claimed, inner⟩ := Report.bind_ok.mp h
  obtain ⟨members, sampled, done⟩ := Report.bind_ok.mp inner
  cases claimed
  cases done
  exact ⟨_, members, rfl, sampled, rfl, rfl, by rw [Report.warn_bind_warnings, Report.bind_pure_warnings]⟩

/-- The first entry is named and typed, and the others go on with the scope after that. -/
theorem sampleMembers_cons_run {key : String} {value : Value} {rest : List (String × Value)} {members : List Member}
    (h : (sampleMembers limit scope position path ((key, value) :: rest)).outcome = .ok members) :
    ∃ claim type after others, claim = scope.claim .camel key position (path.key key).text ∧
      (sampleType limit ⟨claim.scope, key, position⟩ (path.key key) value).outcome = .ok (type, after) ∧
      (sampleMembers limit after.scope (position + 1) path rest).outcome = .ok others ∧
      members = ⟨key, claim.name, type⟩ :: others ∧
      (sampleMembers limit scope position path ((key, value) :: rest)).warnings =
        claim.warnings ++ ((sampleType limit ⟨claim.scope, key, position⟩ (path.key key) value).warnings ++
          (sampleMembers limit after.scope (position + 1) path rest).warnings) := by
  simp only [sampleMembers, Naming.claim] at h ⊢
  obtain ⟨_, claimed, inner⟩ := Report.bind_ok.mp h
  obtain ⟨⟨type, after⟩, typed, last⟩ := Report.bind_ok.mp inner
  obtain ⟨others, sampled, done⟩ := Report.bind_ok.mp last
  cases claimed
  cases done
  refine ⟨_, type, after, others, rfl, typed, sampled, rfl, ?_⟩
  rw [Report.warn_bind_warnings, Report.bind_warnings typed, Report.bind_pure_warnings]

/-- A document is sampled by its entries, and reports what they report. -/
theorem ofSample_run {name : String} {entries : List (String × Value)} {root : Declaration} {warnings : List Warning}
    (sampled : Declaration.ofSample limit name entries = ⟨warnings, .ok root⟩) :
    ∃ members, (sampleMembers limit .initial 1 .top entries).outcome = .ok members ∧ root = ⟨name, members⟩ ∧
      warnings = (sampleMembers limit .initial 1 .top entries).warnings := by
  have outcome : (Declaration.ofSample limit name entries).outcome = .ok root := by rw [sampled]
  obtain ⟨members, inner, done⟩ := Report.bind_ok.mp outcome
  cases done
  refine ⟨members, inner, rfl, ?_⟩
  rw [← Report.bind_pure_warnings _ (Declaration.mk name), ← Declaration.ofSample, sampled]

end Decodables
