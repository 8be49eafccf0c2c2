/-
  Decodables.Proofs.Likeness — what a sample does not look at.

  Values are alike if they have the same keys in the same order wherever members and first
  elements lead, and there the same scalars but for their contents: of a string or a
  boolean nothing is looked at, of a number only whether its spelling has a point. Elements
  behind the first may be anything. They show only in warnings of arrays that hold several
  kinds, and there only by the first element that departs from the kind of element 0.

  Proved, over every two alike objects, every name and limit:
  - `departure_eq_some_iff`: what the search for another kind finds in an array.
  - `ofSample_related`: any relation that goes along when reports go on holds of the reports
    of alike objects, if it holds of those for a nesting and for an array.
  - `Report.Same.bind`, `same_congruence`: being the same up to the warnings that arrays make
    differ is one.
  - `ofSample_alike`: the same declaration or the same failure, the same warnings but for
    arrays of several kinds, and the same source.
-/

import Decodables.Conversion

namespace Decodables

open Json (Kind Value)

/-! ## Alike values -/

namespace Json

mutual

/-- Alike as far as members and first elements lead; any two arrays on the way `agree`. -/
inductive Alike (agree : List Value → List Value → Prop) : Value → Value → Prop
  | null : Alike agree .null .null
  | bool (a b : Bool) : Alike agree (.bool a) (.bool b)
  | string (a b : String) : Alike agree (.string a) (.string b)
  | number {a b : String} : ('.' ∈ a.toList ↔ '.' ∈ b.toList) → Alike agree (.number a) (.number b)
  | empty : Alike agree (.array []) (.array [])
  /-- Only the first elements are compared. -/
  | array {v w : Value} {vs ws : List Value} : Alike agree v w → agree (v :: vs) (w :: ws) →
      Alike agree (.array (v :: vs)) (.array (w :: ws))
  | object {es fs : List (String × Value)} : AlikeEntries agree es fs → Alike agree (.object es) (.object fs)

inductive AlikeEntries (agree : List Value → List Value → Prop) :
    List (String × Value) → List (String × Value) → Prop
  | nil : AlikeEntries agree [] []
  | cons {key : String} {v w : Value} {es fs : List (String × Value)} : Alike agree v w →
      AlikeEntries agree es fs → AlikeEntries agree ((key, v) :: es) ((key, w) :: fs)

end

theorem Alike.kind_eq {agree : List Value → List Value → Prop} {v w : Value} (h : Alike agree v w) :
    v.kind = w.kind := by
  cases h <;> rfl

mutual

theorem Alike.refl {agree : List Value → List Value → Prop} (agrees : ∀ xs, agree xs xs) : (v : Value) → Alike agree v v
  | .null => .null
  | .bool b => .bool b b
  | .string s => .string s s
  | .number _ => .number .rfl
  | .array [] => .empty
  | .array (v :: vs) => .array (Alike.refl agrees v) (agrees (v :: vs))
  | .object es => .object (AlikeEntries.refl agrees es)

theorem AlikeEntries.refl {agree : List Value → List Value → Prop} (agrees : ∀ xs, agree xs xs) :
    (es : List (String × Value)) → AlikeEntries agree es es
  | [] => .nil
  | (_, v) :: es => .cons (Alike.refl agrees v) (AlikeEntries.refl agrees es)

end

/-- The element at `i` is the first of another kind than element 0, namely of kind `k`. -/
def DepartsAt (items : List Value) (i : Nat) (k : Kind) : Prop :=
  ∃ first, items[0]? = some first ∧ k ≠ first.kind ∧ items[i]?.map Value.kind = some k ∧
    ∀ j < i, items[j]?.map Value.kind = some first.kind

def DepartAlike (xs ys : List Value) : Prop := ∀ i k, DepartsAt xs i k ↔ DepartsAt ys i k

end Json

open Json (Alike AlikeEntries DepartsAt DepartAlike)

/-! ## Warnings of arrays -/

def departure (first : Value) (rest : List Value) : Option (Nat × Kind) :=
  ((rest.zipIdx 1).find? fun e => e.1.kind != first.kind).map fun e => (e.2, e.1.kind)

theorem departure_eq_some_iff {first : Value} {rest : List Value} {i : Nat} {k : Kind} :
    departure first rest = some (i, k) ↔ DepartsAt (first :: rest) i k := by
  simp only [departure, Option.map_eq_some_iff, List.find?_eq_some_iff_getElem, List.getElem_zipIdx, bne_iff_ne,
    Bool.not_eq_true', bne_eq_false_iff_eq, List.length_zipIdx]
  -- the place `j` in what follows element 0 is the place `j + 1` in the array
  constructor
  · rintro ⟨_, ⟨departs, j, hj, rfl, before⟩, he⟩
    cases he
    refine ⟨first, rfl, departs, ?_, fun l hl => ?_⟩
    · rw [Nat.add_comm, List.getElem?_cons_succ, List.getElem?_eq_getElem hj, Option.map_some]
    · cases l with
      | zero => rfl
      | succ l =>
        have hl' : l < j := by omega
        rw [List.getElem?_cons_succ, List.getElem?_eq_getElem (by omega), Option.map_some, before l hl']
  · rintro ⟨_, he, departs, found, before⟩
    cases he
    cases i with
    | zero => exact absurd (Option.some.inj found).symm departs
    | succ j =>
      rw [List.getElem?_cons_succ, Option.map_eq_some_iff] at found
      obtain ⟨other, found, rfl⟩ := found
      obtain ⟨hj, rfl⟩ := List.getElem?_eq_some_iff.mp found
      refine ⟨_, ⟨departs, j, hj, rfl, fun l hl => ?_⟩, by rw [Nat.add_comm]⟩
      have same := before (l + 1) (by omega)
      rw [List.getElem?_cons_succ, List.getElem?_eq_getElem (by omega), Option.map_some] at same
      exact Option.some.inj same

theorem departure_eq_iff {v w : Value} {vs ws : List Value} :
    departure v vs = departure w ws ↔ DepartAlike (v :: vs) (w :: ws) := by
  constructor
  · intro h i k
    rw [← departure_eq_some_iff, ← departure_eq_some_iff, h]
  · refine fun alike => Option.ext fun d => ?_
    rw [departure_eq_some_iff, departure_eq_some_iff]
    exact alike d.1 d.2

def Cause.isMixed : Cause → Bool
  | .mixedArray .. => true
  | _ => false

/-- An array is reported for its first element alone, and for where it departs from it. -/
theorem arrayWarnings_cons (path : Path) (first : Value) (rest : List Value) :
    arrayWarnings path (first :: rest) =
      ((if first.kind = Kind.null then [Cause.nullFirstElement] else []) ++
        (departure first rest).toList.map fun d => Cause.mixedArray d.1 first.kind.name d.2.name).map
          (Warning.mk path.text) := by
  rw [arrayWarnings, departure]
  cases (rest.zipIdx 1).find? fun e => e.1.kind != first.kind <;> rfl

/-! ## Related reports of alike values -/

/-- A relation between reports that holds of equal ones and goes along when they go on. It
    holds of what two limits say of a nesting, and of what two arrays that agree are reported
    for. -/
structure Report.Congruence (R : {α : Type} → Report α → Report α → Prop) (agree : List Value → List Value → Prop)
    (limit limit' : Nat) : Prop where
  refl {α : Type} (r : Report α) : R r r
  bind {α β : Type} {r s : Report α} {f g : α → Report β} : R r s → (∀ a, R (f a) (g a)) → R (r >>= f) (s >>= g)
  guard (path : Path) : R (Report.guardDepth limit path) (Report.guardDepth limit' path)
  array {path : Path} {v w : Value} {vs ws : List Value} : v.kind = w.kind → agree (v :: vs) (w :: ws) →
    R (Report.warn (arrayWarnings path (v :: vs)) ()) (Report.warn (arrayWarnings path (w :: ws)) ())

section

variable {R : {α : Type} → Report α → Report α → Prop} {agree : List Value → List Value → Prop} {limit limit' : Nat}

theorem numberType_congr {a b : String} (h : '.' ∈ a.toList ↔ '.' ∈ b.toList) : numberType a = numberType b := by
  unfold numberType
  simp only [List.contains_iff_mem, h]

mutual

theorem sampleType_related (c : Report.Congruence R agree limit limit') {naming : Naming} {path : Path} :
    (v : Value) → {w : Value} → Alike agree v w →
      R (sampleType limit naming path v) (sampleType limit' naming path w)
  | .null, _, .null => c.refl _
  | .bool _, _, .bool _ _ => c.refl _
  | .string _, _, .string _ _ => c.refl _
  | .number a, .number b, h => by
    cases h with
    | number h =>
      rw [sampleType, sampleType, numberType_congr h]
      exact c.refl _
  | .array [], _, .empty => by
    simp only [sampleType]
    exact c.bind (c.guard path) fun _ => c.refl _
  | .array (v :: vs), .array (w :: ws), h => by
    cases h with
    | array alike agreed =>
      have element : R (sampleElement limit naming path (v :: vs)) (sampleElement limit' naming path (w :: ws)) := by
        simp only [sampleElement]
        exact c.bind (c.array alike.kind_eq agreed) fun _ => sampleType_related c v alike
      simp only [sampleType]
      exact c.bind (c.guard path) fun _ => c.bind element fun _ => c.refl _
  | .object es, .object fs, h => by
    cases h with
    | object alike =>
      simp only [sampleType]
      exact c.bind (c.guard path) fun _ => c.bind (c.refl _) fun _ =>
        c.bind (sampleMembers_related c es alike) fun _ => c.refl _

theorem sampleMembers_related (c : Report.Congruence R agree limit limit') {scope : Scope} {position : Nat} {path : Path} :
    (es : List (String × Value)) → {fs : List (String × Value)} → AlikeEntries agree es fs →
      R (sampleMembers limit scope position path es) (sampleMembers limit' scope position path fs)
  | [], _, .nil => c.refl _
  | (key, v) :: es, fs, h => by
    cases h with
    | cons alike rest =>
      simp only [sampleMembers]
      exact c.bind (c.refl _) fun _ => c.bind (sampleType_related c v alike) fun _ =>
        c.bind (sampleMembers_related c es rest) fun _ => c.refl _

end

theorem ofSample_related (c : Report.Congruence R agree limit limit') {es fs : List (String × Value)}
    (alike : AlikeEntries agree es fs) (name : String) :
    R (Declaration.ofSample limit name es) (Declaration.ofSample limit' name fs) :=
  c.bind (sampleMembers_related c es alike) fun _ => c.refl _

end

/-! ## Reports that are the same up to some warnings -/

structure Report.Same {α : Type} (seen : Warning → Bool) (r s : Report α) : Prop where
  outcome : r.outcome = s.outcome
  warnings : r.warnings.filter seen = s.warnings.filter seen

namespace Report.Same

variable {α β : Type} {seen : Warning → Bool}

theorem refl (r : Report α) : Same seen r r := ⟨rfl, rfl⟩

theorem bind {r s : Report α} {f g : α → Report β} (h : Same seen r s) (next : ∀ a, Same seen (f a) (g a)) :
    Same seen (r >>= f) (s >>= g) := by
  obtain ⟨warnings, outcome⟩ := r
  obtain ⟨warnings', outcome'⟩ := s
  obtain ⟨rfl, hw⟩ := h
  show Same seen (Report.andThen _ f) (Report.andThen _ g)
  cases outcome with
  | error e => exact ⟨rfl, hw⟩
  | ok a =>
    refine ⟨(next a).outcome, ?_⟩
    simp only [Report.andThen, List.filter_append]
    rw [hw, (next a).warnings]

end Report.Same

def SeenAlike (agree : List Value → List Value → Prop) (seen : Warning → Bool) : Prop :=
  ∀ {path : Path} {v w : Value} {vs ws : List Value}, v.kind = w.kind → agree (v :: vs) (w :: ws) →
    (arrayWarnings path (v :: vs)).filter seen = (arrayWarnings path (w :: ws)).filter seen

theorem same_congruence {agree : List Value → List Value → Prop} {seen : Warning → Bool} (silent : SeenAlike agree seen)
    (limit : Nat) : Report.Congruence (Report.Same seen) agree limit limit :=
  ⟨.refl, .bind, fun _ => .refl _, fun kind agreed => ⟨rfl, silent kind agreed⟩⟩

theorem seenAlike_unmixed : SeenAlike (fun _ _ => True) (fun w => !w.cause.isMixed) := by
  intro path v w vs ws kind _
  have unseen : ∀ first rest, (((departure first rest).toList.map fun d =>
      Cause.mixedArray d.1 first.kind.name d.2.name).map (Warning.mk path.text)).filter (!·.cause.isMixed) = [] := by
    intro first rest
    cases departure first rest <;> rfl
  rw [arrayWarnings_cons, arrayWarnings_cons, List.map_append, List.map_append, List.filter_append,
    List.filter_append, unseen, unseen, kind]

theorem seenAlike_all : SeenAlike DepartAlike (fun _ => true) := by
  intro path v w vs ws kind alike
  rw [arrayWarnings_cons, arrayWarnings_cons, departure_eq_iff.mpr alike, kind]

theorem ofSample_same {agree : List Value → List Value → Prop} {seen : Warning → Bool} (silent : SeenAlike agree seen)
    {es fs : List (String × Value)} (alike : AlikeEntries agree es fs) (limit : Nat) (name : String) :
    Report.Same seen (Declaration.ofSample limit name es) (Declaration.ofSample limit name fs) :=
  ofSample_related (same_congruence silent limit) alike name

/-- Alike objects give the same declaration, or the same failure at the same place, and the
    same warnings but for arrays that hold several kinds. The warnings are all the same if
    in addition each two arrays depart alike from their first elements. The source is the
    same in any case. -/
theorem ofSample_alike {es fs : List (String × Value)} (alike : AlikeEntries (fun _ _ => True) es fs)
    (limit : Nat) (name : String) :
    (Declaration.ofSample limit name es).outcome = (Declaration.ofSample limit name fs).outcome ∧
      (Declaration.ofSample limit name es).warnings.filter (!·.cause.isMixed) =
        (Declaration.ofSample limit name fs).warnings.filter (!·.cause.isMixed) ∧
      (AlikeEntries DepartAlike es fs →
        (Declaration.ofSample limit name es).warnings = (Declaration.ofSample limit name fs).warnings) ∧
      (Conversion.ofDocument ⟨name, limit⟩ (.object es)).map (·.source) =
        (Conversion.ofDocument ⟨name, limit⟩ (.object fs)).map (·.source) := by
  have same := ofSample_same seenAlike_unmixed alike limit name
  refine ⟨same.outcome, same.warnings, fun departing => ?_, ?_⟩
  · have all := (ofSample_same seenAlike_all departing limit name).warnings
    rwa [List.filter_eq_self.mpr fun _ _ => rfl, List.filter_eq_self.mpr fun _ _ => rfl] at all
  · simp only [Conversion.ofDocument, same.outcome]
    cases (Declaration.ofSample limit name fs).outcome <;> rfl

def sensorLog : List Value := [.object [("t", .number "1.5"), ("last", .array [])], .null, .string "x"]

def sensors : List (String × Value) := [("unit id", .string "A-1"), ("on", .bool true), ("log", .array sensorLog)]

def otherLog : List Value := [.object [("t", .number "-0.0"), ("last", .array [])], .null, .array [.null]]

def otherSensors : List (String × Value) := [("unit id", .string ""), ("on", .bool false), ("log", .array otherLog)]

theorem sensors_alike :
    AlikeEntries (fun _ _ => True) sensors otherSensors ∧ AlikeEntries DepartAlike sensors otherSensors ∧
      (Declaration.ofSample 1 "Sensors" sensors).outcome = (Declaration.ofSample 1 "Sensors" otherSensors).outcome ∧
      (Declaration.ofSample 1 "Sensors" sensors).warnings = (Declaration.ofSample 1 "Sensors" otherSensors).warnings := by
  have alike : ∀ {agree}, agree sensorLog otherLog → AlikeEntries agree sensors otherSensors := fun agreed =>
    have points : '.' ∈ "1.5".toList ↔ '.' ∈ "-0.0".toList := by decide
    .cons (.string ..) <| .cons (.bool ..) <|
      .cons (.array (.object (.cons (.number points) (.cons .empty .nil))) agreed) .nil
  have departing : DepartAlike sensorLog otherLog := departure_eq_iff.mp (by rfl)
  obtain ⟨outcome, _, warnings, _⟩ := ofSample_alike (alike trivial) 1 "Sensors"
  exact ⟨alike trivial, alike departing, outcome, warnings (alike departing)⟩

end Decodables
