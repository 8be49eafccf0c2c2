/-
  Decodables.Proofs.DeclarationTree — the nodes of a declaration tree, and what a name in
  the generated code means at each of them.

  A declaration opens a scope of the declarations nested in it. A name is looked up
  innermost first: among the declarations nested in the node itself, then among those of
  each declaration around it, and last at the root.
-/

import Decodables.Declaration
import Decodables.Identifier.Reserved
import Decodables.Swift.Source

namespace Decodables

/-! ## Types -/

def MemberType.reference : MemberType → String
  | .string => "String"
  | .int => "Int"
  | .float => "Float"
  | .boolean => "Bool"
  | .optionalAny => "Any"
  | .unknown => "Any"
  | .array element => element.reference
  | .declared name _ => name

/-- The text names a type: it is the name, perhaps marked as optional, between brackets. -/
def NamesType (text name : String) : Prop :=
  ∃ n mark, (mark = "" ∨ mark = "?") ∧
    text.toList = List.replicate n '[' ++ (name ++ mark).toList ++ List.replicate n ']'

theorem MemberType.source_namesType (t : MemberType) : NamesType t.source t.reference := by
  match t with
  | .array element =>
    obtain ⟨n, mark, hm, he⟩ := element.source_namesType
    refine ⟨n + 1, mark, hm, ?_⟩
    rw [List.replicate_succ, List.replicate_succ']
    simp [MemberType.source, MemberType.reference, he]
  | .string | .int | .float | .boolean | .declared _ _ => exact ⟨0, "", .inl rfl, by simp [source, reference]⟩
  | .optionalAny | .unknown => exact ⟨0, "?", .inr rfl, rfl⟩

/-- A type that brings a declaration refers to it by its name. -/
theorem MemberType.reference_of_declaration? {t : MemberType} {d : Declaration} (h : t.declaration? = some d) :
    t.reference = d.name := by
  match t with
  | .array element => exact element.reference_of_declaration? h
  | .declared name members => cases h; rfl

/-- A type that brings no declaration refers to one of the reserved names. -/
theorem MemberType.reference_reserved {t : MemberType} (h : t.declaration? = none) :
    t.reference ∈ Identifier.reservedTypeNames := by
  match t with
  | .array element => exact element.reference_reserved h
  | .string | .int | .float | .boolean | .optionalAny | .unknown => decide

/-! ## Nodes -/

namespace Declaration

def names (d : Declaration) : List String := d.members.map (·.identifier) ++ d.nested.map (·.name)

theorem name_mem_names {d e : Declaration} (h : e ∈ d.nested) : e.name ∈ d.names :=
  List.mem_append_right _ (List.mem_map.mpr ⟨e, h, rfl⟩)

structure Distinct (d : Declaration) : Prop where
  nodup : d.names.Nodup
  unreserved : ∀ n ∈ d.names, n ∉ Identifier.reservedTypeNames

/-- A node of the tree under `root`, with the declarations around it, innermost first. -/
inductive Node (root : Declaration) : List Declaration → Declaration → Prop
  | root : Node root [] root
  | nested {around : List Declaration} {d e : Declaration} :
    Node root around d → e ∈ d.nested → Node root (d :: around) e

def AtEveryNode (P : Declaration → Prop) (root : Declaration) : Prop := ∀ around d, Node root around d → P d

theorem Node.around {root d : Declaration} {around : List Declaration} (h : Node root around d) :
    ∀ e ∈ around, ∃ outer, Node root outer e := by
  induction h with
  | root => intro e he; cases he
  | nested h _ ih =>
    intro e he
    rcases List.mem_cons.mp he with rfl | he
    · exact ⟨_, h⟩
    · exact ih e he

theorem AtEveryNode.root {P : Declaration → Prop} {d : Declaration} (h : d.AtEveryNode P) : P d := h [] d .root

theorem Node.under {root e d : Declaration} {around : List Declaration} (he : e ∈ root.nested)
    (h : Node e around d) : Node root (around ++ [root]) d := by
  induction h with
  | root => exact .nested .root he
  | nested _ hd ih => exact .nested ih hd

theorem AtEveryNode.nested {P : Declaration → Prop} {d e : Declaration} (h : d.AtEveryNode P) (he : e ∈ d.nested) :
    e.AtEveryNode P := fun _ x hx => h _ x (hx.under he)

/-- A node below the root is a node under a declaration nested in it. -/
theorem Node.eq_or_under {root d : Declaration} {around : List Declaration} (h : Node root around d) :
    d = root ∨ ∃ e ∈ root.nested, ∃ inner, Node e inner d := by
  induction h with
  | root => exact .inl rfl
  | nested _ hd ih =>
    rcases ih with rfl | ⟨e, he, inner, hn⟩
    · exact .inr ⟨_, hd, [], .root⟩
    · exact .inr ⟨e, he, _, .nested hn hd⟩

theorem AtEveryNode.of_nested {P : Declaration → Prop} {d : Declaration} (h : P d)
    (nested : ∀ e ∈ d.nested, e.AtEveryNode P) : d.AtEveryNode P := by
  intro around x hx
  rcases hx.eq_or_under with rfl | ⟨e, he, inner, hn⟩
  · exact h
  · exact nested e he inner x hn

/-! ## Induction over nested declarations -/

mutual

theorem induction_type {P : Declaration → Prop} (step : ∀ d : Declaration, (∀ e ∈ d.nested, P e) → P d) :
    (t : MemberType) → {d : Declaration} → t.declaration? = some d → P d
  | .declared name members, d, h => by
    cases h
    exact step ⟨name, members⟩ fun e he => induction_members step members he
  | .array element, d, h => induction_type step element h

theorem induction_members {P : Declaration → Prop} (step : ∀ d : Declaration, (∀ e ∈ d.nested, P e) → P d) :
    (members : List Member) → {d : Declaration} → d ∈ members.filterMap (·.type.declaration?) → P d
  | ⟨key, identifier, type⟩ :: rest, d, h => by
    rcases List.mem_filterMap.mp h with ⟨m, hm, hd⟩
    rcases List.mem_cons.mp hm with rfl | hm
    · exact induction_type step type hd
    · exact induction_members step rest (List.mem_filterMap.mpr ⟨m, hm, hd⟩)

end

/-- What a declaration has if those nested in it have it, every declaration has. -/
theorem induction {P : Declaration → Prop} (step : ∀ d : Declaration, (∀ e ∈ d.nested, P e) → P d)
    (d : Declaration) : P d := step d fun _ he => induction_members step d.members he

/-! ## Checking every node -/

mutual

def allNodesOf (check : Declaration → Bool) : MemberType → Bool
  | .declared name members => check ⟨name, members⟩ && allNodesUnder check members
  | .array element => allNodesOf check element
  | _ => true

def allNodesUnder (check : Declaration → Bool) : List Member → Bool
  | [] => true
  | ⟨_, _, type⟩ :: rest => allNodesOf check type && allNodesUnder check rest

end

def allNodes (check : Declaration → Bool) (d : Declaration) : Bool := check d && allNodesUnder check d.members

theorem allNodesOf_eq (check : Declaration → Bool) (t : MemberType) :
    allNodesOf check t = t.declaration?.all (allNodes check) := by
  match t with
  | .array element => exact allNodesOf_eq check element
  | .declared _ _ | .string | .int | .float | .boolean | .optionalAny | .unknown => rfl

theorem allNodes_eq (check : Declaration → Bool) (d : Declaration) :
    d.allNodes check = (check d && d.nested.all (allNodes check)) := by
  have under : allNodesUnder check d.members = d.nested.all (allNodes check) := by
    unfold nested
    induction d.members with
    | nil => rfl
    | cons m rest ih =>
      rw [allNodesUnder, ih, allNodesOf_eq]
      cases h : m.type.declaration? with
      | none => simp [h]
      | some e => simp [h]
  rw [allNodes, under]

theorem atEveryNode_iff {P : Declaration → Prop} [DecidablePred P] (d : Declaration) :
    d.AtEveryNode P ↔ d.allNodes (fun e => decide (P e)) := by
  induction d using induction with
  | step d ih =>
    rw [allNodes_eq, Bool.and_eq_true, decide_eq_true_eq, List.all_eq_true]
    constructor
    · exact fun h => ⟨h.root, fun e he => (ih e he).mp (h.nested he)⟩
    · exact fun h => .of_nested h.1 fun e he => (ih e he).mpr (h.2 e he)

instance {P : Declaration → Prop} [DecidablePred P] (d : Declaration) : Decidable (d.AtEveryNode P) :=
  decidable_of_iff _ (atEveryNode_iff d).symm

instance : DecidablePred Distinct := fun d =>
  decidable_of_iff (d.names.Nodup ∧ ∀ n ∈ d.names, n ∉ Identifier.reservedTypeNames)
    ⟨fun h => ⟨h.1, h.2⟩, fun h => ⟨h.nodup, h.unreserved⟩⟩

/-! ## Looking names up -/

/-- The declaration that a name means at a node: the first of that name, looked for from
    scope to scope. -/
def lookUp (scopes : List (List Declaration)) (name : String) : Option Declaration :=
  scopes.findSome? fun scope => scope.find? (·.name == name)

/-- The scopes in view at a node, innermost first, the root's own last. -/
def scopes (root : Declaration) (around : List Declaration) (d : Declaration) : List (List Declaration) :=
  (d :: around).map nested ++ [[root]]

/-- A name that no declaration in view bears means none. -/
theorem lookUp_eq_none {scopes : List (List Declaration)} {name : String}
    (h : ∀ scope ∈ scopes, ∀ d ∈ scope, d.name ≠ name) : lookUp scopes name = none := by
  refine List.findSome?_eq_none_iff.mpr fun scope hs => List.find?_eq_none.mpr fun d hd => ?_
  simpa using h scope hs d hd

/-- With distinct names in the innermost scope, a name in it means its bearer. -/
theorem lookUp_innermost {scope : List Declaration} {outer : List (List Declaration)} {d : Declaration}
    (distinct : (scope.map (·.name)).Nodup) (hd : d ∈ scope) : lookUp (scope :: outer) d.name = some d := by
  have found : scope.find? (·.name == d.name) = some d := by
    induction scope with
    | nil => cases hd
    | cons e scope ih =>
      rw [List.map_cons, List.nodup_cons] at distinct
      rcases List.mem_cons.mp hd with rfl | hd
      · simp
      · have ne : e.name ≠ d.name := fun h => distinct.1 (List.mem_map.mpr ⟨d, hd, h.symm⟩)
        rw [List.find?_cons_of_neg (by simpa using ne)]
        exact ih distinct.2 hd
  simp [lookUp, found]

end Declaration

end Decodables
