/-
  Decodables.Proofs.RootName — the name of the outermost struct by the rules for nested
  ones.

  A fresh scope mends a name that cannot stand: one by the position replaces what names
  nothing, an underscore goes before a number, a number behind a reserved name. A request
  for an outermost name is refused instead. The two agree on all names but the wildcard:
  a scope replaces it, and as the outermost name it passes.

  Proved, over all arguments of the command line:
  - `rootName_ok_iff`: which names pass as the outermost one.
  - `namedAsDerived_iff`: which names a fresh scope gives as they are derived.
  - `settings_ok_iff`: the settings are refused unless the scope would give the name as it
    is derived, or the wildcard is derived.
  - `wildcard_passes`: so the wildcard becomes the outermost name.
-/

import Decodables.Command.Answer
import Decodables.Proofs.NamingRun

namespace Decodables.Command

open Identifier (derive reservedTypeNames)
open Scope (Request)

/-! ## Names that pass -/

/-- A name passes as the outermost one if it is derived, does not start with a number and
    is not reserved. -/
theorem rootName_ok_iff {asked name : String} : rootName asked = .ok name ↔
    derive .pascal asked ≠ "" ∧ startsNumeric (derive .pascal asked) = false ∧
      derive .pascal asked ∉ reservedTypeNames ∧ name = derive .pascal asked := by
  unfold rootName Identifier.isReservedTypeName
  dsimp only
  split
  · rename_i unusable
    refine iff_of_false nofun fun ⟨nonempty, unnumbered, _⟩ => ?_
    rcases unusable with empty | numbered
    · exact nonempty empty
    · rw [unnumbered] at numbered; cases numbered
  · rename_i usable
    rw [not_or, Bool.not_eq_true] at usable
    split
    · rename_i reserved
      exact iff_of_false nofun fun ⟨_, _, free, _⟩ => free (List.contains_iff_mem.mp reserved)
    · rename_i free
      rw [List.contains_iff_mem] at free
      rw [Except.ok.injEq, eq_comm]
      exact ⟨fun he => ⟨usable.1, usable.2, free, he⟩, fun h => h.2.2.2⟩

/-- A fresh scope names a struct after the key just as the key derives it, and has nothing
    to report. -/
def NamedAsDerived (key name : String) (position : Nat) (path : String) : Prop :=
  (Scope.initial.claim .pascal key position path).name = name ∧
    (Scope.initial.claim .pascal key position path).warnings = [] ∧ name = derive .pascal key

theorem namedAsDerived_iff {key name path : String} {position : Nat} : NamedAsDerived key name position path ↔
    derive .pascal key ≠ "_" ∧ derive .pascal key ≠ "" ∧ startsNumeric (derive .pascal key) = false ∧
      derive .pascal key ∉ reservedTypeNames ∧ name = derive .pascal key := by
  let r : Request := ⟨.pascal, key, position, path⟩
  have granted : Scope.Granted reservedTypeNames r (Scope.initial.claim .pascal key position path) :=
    Scope.initial.answer_granted r
  rw [NamedAsDerived, granted.silent_iff]
  constructor
  · rintro ⟨given, ⟨named, free⟩, rfl⟩
    have same : r.wanted = r.derived := (granted.kept free).symm.trans given
    have unnumbered := (Request.wanted_eq_derived_iff named).mp same
    have free' : r.derived ∉ reservedTypeNames := same ▸ free
    exact ⟨fun h => named (.inr h), fun h => named (.inl h), unnumbered, free', rfl⟩
  · rintro ⟨unwild, nonempty, unnumbered, free, rfl⟩
    have named : ¬ r.NamesNothing := not_or.mpr ⟨nonempty, unwild⟩
    have same : r.wanted = r.derived := (Request.wanted_eq_derived_iff named).mpr unnumbered
    have free' : r.wanted ∉ reservedTypeNames := same ▸ free
    exact ⟨(granted.kept free').trans same, ⟨named, free'⟩, rfl⟩

/-! ## Settings -/

def Arguments.asked (a : Arguments) : String := a.rootType.getD Settings.standard.rootName

/-- The wildcard passes; any other name passes just if a fresh scope gives it as it is
    derived. -/
theorem rootName_ok_iff_named {asked name : String} (position : Nat) (path : String) :
    rootName asked = .ok name ↔
      NamedAsDerived asked name position path ∨ (derive .pascal asked = "_" ∧ name = "_") := by
  rw [rootName_ok_iff, namedAsDerived_iff]
  by_cases wild : derive .pascal asked = "_"
  · have usable : "_" ≠ "" ∧ startsNumeric "_" = false ∧ "_" ∉ reservedTypeNames := by decide
    rw [wild]
    simp [usable]
  · simp [wild]

theorem Arguments.settings_ok {a : Arguments} {settings : Settings} : a.settings = .ok settings ↔
    settings.maxDepth = a.maxDepth.getD Settings.standard.maxDepth ∧ rootName a.asked = .ok settings.rootName := by
  unfold Arguments.settings asked
  cases rootName (a.rootType.getD Settings.standard.rootName) with
  | error failure => simp
  | ok name =>
    obtain ⟨rootName, maxDepth⟩ := settings
    simp [eq_comm, and_comm]

/-- There are settings just if a fresh scope gives the name asked for as it is derived, which
    then is the outermost name, or the wildcard is derived, which a scope never gives.
    Otherwise the request is refused. -/
theorem settings_ok_iff (a : Arguments) (position : Nat) (path : String) :
    (∀ settings, a.settings = .ok settings ↔
      settings.maxDepth = a.maxDepth.getD Settings.standard.maxDepth ∧
        (NamedAsDerived a.asked settings.rootName position path ∨
          (derive .pascal a.asked = "_" ∧ settings.rootName = "_"))) ∧
      ((∃ failure, a.settings = .error failure) ↔
        (∀ name, ¬ NamedAsDerived a.asked name position path) ∧ derive .pascal a.asked ≠ "_") ∧
      (derive .pascal a.asked = "_" → ∀ name, ¬ NamedAsDerived a.asked name position path) := by
  refine ⟨fun settings => ?_, ?_, fun wild name h => (namedAsDerived_iff.mp h).1 wild⟩
  · rw [Arguments.settings_ok, rootName_ok_iff_named position path]
  · constructor
    · rintro ⟨failure, refused⟩
      have unpassed : ∀ name, rootName a.asked ≠ .ok name := fun name passed => by
        have given : a.settings = .ok ⟨name, a.maxDepth.getD Settings.standard.maxDepth⟩ :=
          Arguments.settings_ok.mpr ⟨rfl, passed⟩
        rw [refused] at given
        cases given
      refine ⟨fun name named => unpassed name ?_, fun wild => unpassed "_" ?_⟩
      · exact (rootName_ok_iff_named position path).mpr (.inl named)
      · exact (rootName_ok_iff_named position path).mpr (.inr ⟨wild, rfl⟩)
    · rintro ⟨unnamed, unwild⟩
      cases given : a.settings with
      | error failure => exact ⟨failure, rfl⟩
      | ok settings =>
        have passed := (Arguments.settings_ok.mp given).2
        rcases (rootName_ok_iff_named position path).mp passed with named | ⟨wild, _⟩
        · exact absurd named (unnamed _)
        · exact absurd wild unwild

def wildcard : Arguments := ⟨none, none, some "_", none, false⟩

/-- The wildcard becomes the name of the outermost struct, where a scope names a struct by
    the position and reports it. -/
theorem wildcard_passes :
    wildcard.settings = .ok ⟨"_", 128⟩ ∧ ¬ NamedAsDerived "_" "_" 1 "$" ∧
      (Scope.initial.claim .pascal "_" 1 "$").name = "Field1" ∧
      (Scope.initial.claim .pascal "_" 1 "$").warnings = [⟨"$", .emptyIdentifier "_" "Field1"⟩] := by
  have named : (Scope.initial.claim .pascal "_" 1 "$").name = "Field1" := by rfl
  have reported : (Scope.initial.claim .pascal "_" 1 "$").warnings = [⟨"$", .emptyIdentifier "_" "Field1"⟩] := by rfl
  refine ⟨by rfl, fun h => ?_, named, reported⟩
  have same : "Field1" = "_" := named.symm.trans h.1
  exact absurd same (by decide)

end Decodables.Command
