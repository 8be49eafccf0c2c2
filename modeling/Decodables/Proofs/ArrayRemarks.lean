/-
  Decodables.Proofs.ArrayRemarks — what a sample reports of arrays, and the types they get.

  A sample comes to a type for each value that it visits, at the same place and in the same
  order; of the type of the elements of an empty array there is nothing to visit. Of arrays
  it reports each time it visits one: that it is empty, that it starts with null, or at
  which place it first departs from the kind of element 0. Names are reported in between.

  Proved, over every object, name and limit under which the sample succeeds:
  - `arrayWarnings_remarks`: what is reported of one array.
  - `Json.Value.mem_arrays_iff`: the arrays that are visited.
  - `sampleType_accounted`, `sampleMembers_accounted`: the types stand for the visits, and the
    warnings of arrays are those of the arrays visited.
  - `Accounted.paths`: so the types of one shape stand where one cause is reported.
  - `arrays_reported`: what is reported of the arrays of a document, and their types.
-/

import Decodables.Proofs.Acceptance
import Decodables.Proofs.Likeness
import Decodables.Proofs.NamingRun
import Decodables.Proofs.SampleSteps
import Decodables.Proofs.Visits

namespace Decodables

open Json (Kind Value DepartsAt Reaches entryVisits)

/-! ## One array -/

def Cause.ofArray : Cause → Bool
  | .emptyArray => true
  | .nullFirstElement => true
  | .mixedArray .. => true
  | _ => false

def nullRemark (path : Path) (first : Value) : List Warning :=
  if first.kind = .null then [⟨path.text, .nullFirstElement⟩] else []

inductive Remarks (path : Path) : List Value → List Warning → Prop
  | empty : Remarks path [] [⟨path.text, .emptyArray⟩]
  | uniform {first : Value} {rest : List Value} : (∀ v ∈ rest, v.kind = first.kind) →
    Remarks path (first :: rest) (nullRemark path first)
  | mixed {first : Value} {rest : List Value} {i : Nat} {k : Kind} : DepartsAt (first :: rest) i k →
    Remarks path (first :: rest) (nullRemark path first ++ [⟨path.text, .mixedArray i first.kind.name k.name⟩])

theorem departure_eq_none_iff {first : Value} {rest : List Value} :
    departure first rest = none ↔ ∀ v ∈ rest, v.kind = first.kind := by
  simp only [departure, Option.map_eq_none_iff, List.find?_eq_none, bne_iff_ne, ne_eq, Decidable.not_not]
  constructor
  · intro same v hv
    obtain ⟨i, hi, rfl⟩ := List.getElem_of_mem hv
    exact same _ (List.mem_of_getElem (List.getElem_zipIdx (by simpa using hi)))
  · rintro same ⟨v, i⟩ he
    exact same v (List.fst_mem_of_mem_zipIdx he)

theorem arrayWarnings_remarks (path : Path) (items : List Value) : Remarks path items (arrayWarnings path items) := by
  cases items with
  | nil => exact .empty
  | cons first rest =>
    have split : arrayWarnings path (first :: rest) = nullRemark path first ++
        (departure first rest).toList.map fun d => ⟨path.text, .mixedArray d.1 first.kind.name d.2.name⟩ := by
      rw [arrayWarnings_cons, List.map_append, nullRemark, apply_ite (List.map _), List.map_map]
      rfl
    rw [split]
    cases departs : departure first rest with
    | none =>
      simpa using Remarks.uniform (departure_eq_none_iff.mp departs)
    | some d =>
      exact .mixed (departure_eq_some_iff.mp departs)

theorem mem_nullRemark {path : Path} {first : Value} {w : Warning} (h : w ∈ nullRemark path first) :
    w = ⟨path.text, .nullFirstElement⟩ := by
  unfold nullRemark at h
  split at h
  · exact List.mem_singleton.mp h
  · cases h

theorem Json.Kind.name_inj {k l : Kind} : k.name = l.name ↔ k = l := by
  cases k <;> cases l <;> decide

/-- An element that departs from element 0 is not that one, and the kinds have two names. -/
theorem Remarks.departing {path : Path} {items : List Value} {ws : List Warning} (h : Remarks path items ws) {w : Warning}
    (hw : w ∈ ws) {i : Nat} {first found : String} (hc : w.cause = .mixedArray i first found) : 1 ≤ i ∧ first ≠ found := by
  have nothing : ∀ {v : Value}, w ∈ nullRemark path v → w.cause ≠ .mixedArray i first found := by
    intro v hw
    rw [mem_nullRemark hw]
    exact nofun
  cases h with
  | empty =>
    rw [List.mem_singleton.mp hw] at hc
    cases hc
  | uniform _ => exact absurd hc (nothing hw)
  | mixed departs =>
    rcases List.mem_append.mp hw with hw | hw
    · exact absurd hc (nothing hw)
    · rw [List.mem_singleton.mp hw] at hc
      cases hc
      obtain ⟨_, head, differs, there, _⟩ := departs
      cases head
      refine ⟨Nat.one_le_iff_ne_zero.mpr ?_, fun same => differs (Kind.name_inj.mp same).symm⟩
      rintro rfl
      exact differs (Option.some.inj there).symm

theorem Remarks.ofArray {path : Path} {items : List Value} {ws : List Warning} (h : Remarks path items ws) :
    ∀ w ∈ ws, w.cause.ofArray := by
  have nulls : ∀ {v : Value}, ∀ w ∈ nullRemark path v, w.cause.ofArray := fun w hw => mem_nullRemark hw ▸ rfl
  cases h with
  | empty => exact List.forall_mem_singleton.mpr rfl
  | uniform _ => exact nulls
  | mixed _ => exact List.forall_mem_append.mpr ⟨nulls, List.forall_mem_singleton.mpr rfl⟩

theorem arrayWarnings_ofArray (path : Path) (items : List Value) :
    (arrayWarnings path items).filter (·.cause.ofArray) = arrayWarnings path items :=
  List.filter_eq_self.mpr (arrayWarnings_remarks path items).ofArray

/-! ## Types at places -/

structure TypeVisit where
  path : Path
  type : MemberType

mutual

/-- The types that stand for visited values, from the type of a value at a path on. No value is
    visited for the type of the elements of an empty array. -/
def MemberType.visits (path : Path) : MemberType → List TypeVisit
  | .unknown => []
  | .array element => ⟨path, .array element⟩ :: element.visits (path.index 0)
  | .declared name members => ⟨path, .declared name members⟩ :: memberVisits path members
  | .string => [⟨path, .string⟩]
  | .int => [⟨path, .int⟩]
  | .float => [⟨path, .float⟩]
  | .boolean => [⟨path, .boolean⟩]
  | .optionalAny => [⟨path, .optionalAny⟩]

def memberVisits (path : Path) : List Member → List TypeVisit
  | [] => []
  | ⟨key, _, type⟩ :: rest => type.visits (path.key key) ++ memberVisits path rest

end

inductive Describes : Value → MemberType → Prop
  | null : Describes .null .optionalAny
  | bool (b : Bool) : Describes (.bool b) .boolean
  | number (literal : String) : Describes (.number literal) (numberType literal)
  | string (s : String) : Describes (.string s) .string
  | empty : Describes (.array []) (.array .unknown)
  | array {first : Value} {rest : List Value} {element : MemberType} : Describes first element →
    Describes (.array (first :: rest)) (.array element)
  | object {entries : List (String × Value)} {name : String} {members : List Member} :
    Describes (.object entries) (.declared name members)

def StandsAt (c : Visit) (t : TypeVisit) : Prop := c.path = t.path ∧ Describes c.value t.type

theorem numberType_eq_or (literal : String) : numberType literal = .int ∨ numberType literal = .float := by
  unfold numberType
  split
  · exact .inr rfl
  · exact .inl rfl

theorem numberType_visits (literal : String) (path : Path) :
    (numberType literal).visits path = [⟨path, numberType literal⟩] := by
  rcases numberType_eq_or literal with int | float
  · rw [int]
    rfl
  · rw [float]
    rfl

/-! ## Accounts of samples -/

def Visit.array? (c : Visit) : Option (Path × List Value) :=
  match c.value with
  | .array items => some (c.path, items)
  | _ => none

def remarks (visits : List Visit) : List Warning :=
  (visits.filterMap Visit.array?).flatMap fun a => arrayWarnings a.1 a.2

theorem remarks_append (visits visits' : List Visit) : remarks (visits ++ visits') = remarks visits ++ remarks visits' := by
  rw [remarks, List.filterMap_append, List.flatMap_append]
  rfl

theorem remarks_array (path : Path) (items : List Value) : remarks [⟨path, .array items⟩] = arrayWarnings path items :=
  List.append_nil _

/-- The types stand for the visits, one for one and in order, and what is reported of arrays is
    what there is to report of the visits, in order. -/
structure Accounted (visits : List Visit) (types : List TypeVisit) (warnings : List Warning) : Prop where
  typed : List.Forall₂ StandsAt visits types
  reported : warnings.filter (·.cause.ofArray) = remarks visits

namespace Accounted

variable {visits visits' : List Visit} {types types' : List TypeVisit} {warnings warnings' : List Warning}

theorem append (h : Accounted visits types warnings) (h' : Accounted visits' types' warnings') :
    Accounted (visits ++ visits') (types ++ types') (warnings ++ warnings') :=
  ⟨List.rel_append h.typed h'.typed, by rw [List.filter_append, remarks_append, h.reported, h'.reported]⟩

/-- Warnings that are not of arrays are left out of the account. -/
theorem silent (unseen : warnings'.filter (·.cause.ofArray) = []) (h : Accounted visits types warnings) :
    Accounted visits types (warnings' ++ warnings) :=
  ⟨h.typed, by rw [List.filter_append, unseen, List.nil_append, h.reported]⟩

/-- A scalar brings no remarks. -/
theorem scalar {path : Path} {v : Value} {t : MemberType} (h : Describes v t) (silent : remarks [⟨path, v⟩] = []) :
    Accounted [⟨path, v⟩] [⟨path, t⟩] [] :=
  ⟨.cons ⟨rfl, h⟩ .nil, silent.symm⟩

/-- A container is visited before what it holds, and its remarks come first. -/
theorem container {path : Path} {v : Value} {t : MemberType} (described : Describes v t)
    (own : warnings'.filter (·.cause.ofArray) = remarks [⟨path, v⟩]) (h : Accounted visits types warnings) :
    Accounted (⟨path, v⟩ :: visits) (⟨path, t⟩ :: types) (warnings' ++ warnings) :=
  append ⟨.cons ⟨rfl, described⟩ .nil, own⟩ h

end Accounted

/-! ## Samples that succeed -/

/-- Names are reported for keys, never for arrays. -/
theorem claim_no_array (scope : Scope) (style : Identifier.Style) (key : String) (position : Nat) (path : String) :
    (scope.claim style key position path).warnings.filter (·.cause.ofArray) = [] := by
  have answered := scope.answer_warnings ⟨style, key, position, path⟩
  rw [Scope.answer] at answered
  rw [answered, List.filter_append]
  split <;> split <;> rfl

mutual

theorem sampleType_accounted {limit : Nat} {naming after : Naming} {path : Path} {t : MemberType} :
    (v : Value) → (sampleType limit naming path v).outcome = .ok (t, after) →
      Describes v t ∧ Accounted (v.visits path) (t.visits path) (sampleType limit naming path v).warnings
  | .null => fun h => by
    cases h
    exact ⟨.null, .scalar .null rfl⟩
  | .bool b => fun h => by
    cases h
    exact ⟨.bool b, .scalar (.bool b) rfl⟩
  | .string s => fun h => by
    cases h
    exact ⟨.string s, .scalar (.string s) rfl⟩
  | .number literal => fun h => by
    cases h
    rw [numberType_visits]
    exact ⟨.number literal, .scalar (.number literal) rfl⟩
  | .array [] => fun h => by
    obtain ⟨rfl, _, warned⟩ := sampleType_empty_ok h
    rw [warned, ← List.append_nil (arrayWarnings path [])]
    exact ⟨.empty, .container .empty rfl ⟨.nil, rfl⟩⟩
  | .array (first :: rest) => fun h => by
    obtain ⟨element, typed, rfl, warned⟩ := sampleType_array_ok h
    obtain ⟨described, accounted⟩ := sampleType_accounted first typed
    rw [warned]
    refine ⟨.array described, .container (.array described) ?_ accounted⟩
    rw [remarks_array, arrayWarnings_ofArray]
  | .object entries => fun h => by
    obtain ⟨_, members, rfl, sampled, rfl, _, warned⟩ := sampleType_object_ok h
    rw [warned]
    exact ⟨.object, .container .object (claim_no_array ..) (sampleMembers_accounted entries sampled)⟩

theorem sampleMembers_accounted {limit : Nat} {scope : Scope} {position : Nat} {path : Path} {members : List Member} :
    (entries : List (String × Value)) → (sampleMembers limit scope position path entries).outcome = .ok members →
      Accounted (entryVisits path entries) (memberVisits path members)
        (sampleMembers limit scope position path entries).warnings
  | [] => fun h => by
    cases h
    exact ⟨.nil, rfl⟩
  | (key, value) :: rest => fun h => by
    obtain ⟨_, type, after, others, rfl, typed, sampled, rfl, warned⟩ := sampleMembers_cons_run h
    have first := (sampleType_accounted value typed).2
    have others := sampleMembers_accounted rest sampled
    rw [warned]
    exact .silent (claim_no_array ..) (first.append others)

end

/-! ## Arrays and their types -/

def Json.Value.arrays (v : Value) : List (Path × List Value) := (v.visits .top).filterMap Visit.array?

/-- These are the arrays that steps through entries and first elements lead to. -/
theorem Json.Value.mem_arrays_iff {v : Value} {path : Path} {items : List Value} :
    (path, items) ∈ v.arrays ↔ ∃ steps, Reaches v steps (.array items) ∧ path = Path.top.follow steps := by
  have of_array : ∀ c : Visit, c.array? = some (path, items) ↔ c = ⟨path, .array items⟩ := by
    rintro ⟨place, w⟩
    cases w <;> simp [Visit.array?]
  simp only [arrays, List.mem_filterMap, of_array, exists_eq_right, Json.mem_visits_iff]

def Json.Value.isEmptyArray : Value → Bool
  | .array [] => true
  | _ => false

def Json.Value.startsNull : Value → Bool
  | .array (.null :: _) => true
  | _ => false

def MemberType.isArrayOfUnknown : MemberType → Bool
  | .array .unknown => true
  | _ => false

def MemberType.isArrayOfOptionalAny : MemberType → Bool
  | .array .optionalAny => true
  | _ => false

/-- Of these shapes a type is just if the value that it describes is of the one beside it. -/
theorem Describes.array_shapes {v : Value} {t : MemberType} (h : Describes v t) :
    t.isArrayOfUnknown = v.isEmptyArray ∧ t.isArrayOfOptionalAny = v.startsNull := by
  cases h with
  | number literal =>
    rcases numberType_eq_or literal with int | float
    · rw [int]
      exact ⟨rfl, rfl⟩
    · rw [float]
      exact ⟨rfl, rfl⟩
  | array element =>
    cases element with
    | number literal =>
      rcases numberType_eq_or literal with int | float
      · rw [int]
        exact ⟨rfl, rfl⟩
      · rw [float]
        exact ⟨rfl, rfl⟩
    | _ => exact ⟨rfl, rfl⟩
  | _ => exact ⟨rfl, rfl⟩

theorem Remarks.empties {path : Path} {items : List Value} {ws : List Warning} (h : Remarks path items ws) :
    (ws.filter (·.cause == .emptyArray)).map (·.path) =
      if (Value.array items).isEmptyArray then [path.text] else [] := by
  cases h with
  | empty => rfl
  | @uniform first _ _ => cases first <;> rfl
  | @mixed first _ _ _ _ => cases first <;> rfl

theorem Remarks.nulls {path : Path} {items : List Value} {ws : List Warning} (h : Remarks path items ws) :
    (ws.filter (·.cause == .nullFirstElement)).map (·.path) =
      if (Value.array items).startsNull then [path.text] else [] := by
  cases h with
  | empty => rfl
  | @uniform first _ _ => cases first <;> rfl
  | @mixed first _ _ _ _ => cases first <;> rfl

/-- A cause is reported of the values of one shape, and of these alone. -/
def Reports (cause : Cause) (shape : Value → Bool) : Prop :=
  ∀ c : Visit, ((remarks [c]).filter (·.cause == cause)).map (·.path) = if shape c.value then [c.path.text] else []

theorem reports_emptyArray : Reports .emptyArray Value.isEmptyArray := by
  rintro ⟨path, v⟩
  match v with
  | .null | .bool _ | .number _ | .string _ | .object _ => rfl
  | .array items =>
    rw [remarks_array]
    exact (arrayWarnings_remarks path items).empties

theorem reports_nullFirstElement : Reports .nullFirstElement Value.startsNull := by
  rintro ⟨path, v⟩
  match v with
  | .null | .bool _ | .number _ | .string _ | .object _ => rfl
  | .array items =>
    rw [remarks_array]
    exact (arrayWarnings_remarks path items).nulls

/-- Where a cause is reported of one shape of values, it is reported where the types of that
    shape stand, in the same order. -/
theorem remarks_paths {cause : Cause} {shape : Value → Bool} (reports : Reports cause shape) {typeShape : MemberType → Bool}
    (described : ∀ {v t}, Describes v t → typeShape t = shape v) {visits : List Visit} {types : List TypeVisit}
    (h : List.Forall₂ StandsAt visits types) :
    (types.filter (typeShape ·.type)).map (·.path.text) = ((remarks visits).filter (·.cause == cause)).map (·.path) := by
  induction h with
  | nil => rfl
  | @cons c t visits types stands _ ih =>
    have here : ((remarks [c]).filter (·.cause == cause)).map (·.path) = if typeShape t.type then [t.path.text] else [] := by
      rw [reports c, described stands.2, stands.1]
    have parts : remarks (c :: visits) = remarks [c] ++ remarks visits := remarks_append [c] visits
    rw [parts, List.filter_append, List.map_append, here, ← ih, List.filter_cons]
    split <;> rfl

theorem Accounted.paths {visits : List Visit} {types : List TypeVisit} {warnings : List Warning}
    (h : Accounted visits types warnings) {cause : Cause} (array : cause.ofArray) {shape : Value → Bool}
    (reports : Reports cause shape) {typeShape : MemberType → Bool}
    (described : ∀ {v t}, Describes v t → typeShape t = shape v) :
    (types.filter (typeShape ·.type)).map (·.path.text) = (warnings.filter (·.cause == cause)).map (·.path) := by
  rw [remarks_paths reports described h.typed, ← h.reported, List.filter_filter]
  congr 1
  refine List.filter_congr fun w _ => ?_
  by_cases same : w.cause = cause
  · rw [same, array, Bool.and_true]
  · rw [beq_eq_false_iff_ne.mpr same, Bool.false_and]

/-! ## Documents -/

variable {limit : Nat} {name : String} {entries : List (String × Value)} {root : Declaration} {warnings : List Warning}

theorem ofSample_accounted (sampled : Declaration.ofSample limit name entries = ⟨warnings, .ok root⟩) :
    Accounted ((Value.object entries).visits .top) (root.type.visits .top) warnings := by
  obtain ⟨members, inner, rfl, rfl⟩ := ofSample_run sampled
  rw [← List.nil_append (Report.warnings _)]
  exact .container .object rfl (sampleMembers_accounted entries inner)

/-- The warnings of arrays that a sample gives are what there is to report of each array that
    is visited, in order; and where an element departs from element 0, it is another element
    and of another kind. The types of arrays of which nothing is known stand where arrays are
    reported to be empty, one for one and in order, and those of arrays of which the first
    element is null where that is reported. -/
theorem arrays_reported (sampled : Declaration.ofSample limit name entries = ⟨warnings, .ok root⟩) :
    (∀ path items, (path, items) ∈ (Value.object entries).arrays ↔
        ∃ steps, Reaches (.object entries) steps (.array items) ∧ path = Path.top.follow steps) ∧
      (∃ parts, List.Forall₂ (fun a part => Remarks a.1 a.2 part) (Value.object entries).arrays parts ∧
        warnings.filter (·.cause.ofArray) = parts.flatten) ∧
      (∀ w ∈ warnings, ∀ i first found, w.cause = .mixedArray i first found → 1 ≤ i ∧ first ≠ found) ∧
      ((root.type.visits .top).filter (·.type.isArrayOfUnknown)).map (·.path.text) =
        (warnings.filter (·.cause == .emptyArray)).map (·.path) ∧
      ((root.type.visits .top).filter (·.type.isArrayOfOptionalAny)).map (·.path.text) =
        (warnings.filter (·.cause == .nullFirstElement)).map (·.path) := by
  have accounted := ofSample_accounted sampled
  refine ⟨fun _ _ => Value.mem_arrays_iff, ⟨(Value.object entries).arrays.map fun a => arrayWarnings a.1 a.2, ?_, ?_⟩, ?_, ?_, ?_⟩
  · exact List.forall₂_map_right_iff.mpr (List.forall₂_same.mpr fun a _ => arrayWarnings_remarks a.1 a.2)
  · exact accounted.reported
  · intro w hw i first found cause
    have seen : w ∈ warnings.filter (·.cause.ofArray) := List.mem_filter.mpr ⟨hw, by rw [cause]; rfl⟩
    rw [accounted.reported] at seen
    obtain ⟨a, -, remarked⟩ := List.mem_flatMap.mp seen
    exact (arrayWarnings_remarks a.1 a.2).departing remarked cause
  · exact accounted.paths rfl reports_emptyArray fun described => described.array_shapes.1
  · exact accounted.paths rfl reports_nullFirstElement fun described => described.array_shapes.2

def atlas : List (String × Value) :=
  [("maps", .array [.null, .number "1", .null]), ("7", .array [.array [], .string "x"]),
   ("legend", .object [("a b", .array []), ("aB", .array [.array [.null, .array []], .array [.array []]])])]

def atlasWarnings : List Warning :=
  [⟨"$.maps", .nullFirstElement⟩, ⟨"$.maps", .mixedArray 1 "null" "number"⟩,
   ⟨"$[\"7\"]", .mixedArray 1 "array" "string"⟩, ⟨"$[\"7\"][0]", .emptyArray⟩,
   ⟨"$.legend[\"a b\"]", .emptyArray⟩, ⟨"$.legend.aB", .collision "aB" "aB" "aB2"⟩,
   ⟨"$.legend.aB[0]", .nullFirstElement⟩, ⟨"$.legend.aB[0]", .mixedArray 1 "null" "array"⟩]

theorem atlas_reported :
    ∃ root, Declaration.ofSample 3 "Atlas" atlas = ⟨atlasWarnings, .ok root⟩ ∧
      ((root.type.visits .top).filter (·.type.isArrayOfUnknown)).map (·.path.text) =
        ["$[\"7\"][0]", "$.legend[\"a b\"]"] ∧
      ((root.type.visits .top).filter (·.type.isArrayOfOptionalAny)).map (·.path.text) =
        ["$.maps", "$.legend.aB[0]"] := by
  obtain ⟨root, sampled⟩ : ∃ root, Declaration.ofSample 3 "Atlas" atlas = ⟨atlasWarnings, .ok root⟩ := ⟨_, by rfl⟩
  obtain ⟨-, -, -, unknown, optional⟩ := arrays_reported sampled
  exact ⟨root, sampled, unknown, optional⟩

end Decodables
