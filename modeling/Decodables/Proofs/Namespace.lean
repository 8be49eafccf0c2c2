/-
  Decodables.Proofs.Namespace — names in the declarations of a sample mean what they were
  given for.

  Members and nested declarations of one node draw their names from one scope, which
  holds the reserved names from the start. The nodes of a sample are samples themselves,
  so what holds of one scope holds at every node.

  Proved, over every object, limit and accepted name of the outermost declaration:
  - `sampleMembers_issued`: what one scope gives is new to it, and given once.
  - `sampled_distinct`: no node has a name twice or a reserved one.
  - `sample_names_resolve`: at every node, a member's type refers to the declaration the
    member brings, and to none if it brings none.
-/

import Mathlib.Data.List.Perm.Lattice
import Decodables.Proofs.DeclarationTree
import Decodables.Proofs.RootName
import Decodables.Proofs.Sampling

namespace Decodables

open Identifier (reservedTypeNames)
open Json (Value)
open Declaration (Node lookUp scopes)

/-! ## One scope -/

namespace Declaration

/-- The names of a declaration with one more member in front: the member's, that of the
    declaration it brings, and the names of the others. -/
theorem names_cons (name : String) (m : Member) (ms : List Member) :
    (Declaration.mk name (m :: ms)).names.Perm
      (m.identifier :: ((m.type.declaration?.map (·.name)).toList ++ (Declaration.mk name ms).names)) := by
  simp only [names, nested, List.map_cons, List.cons_append, List.filterMap_cons]
  refine .cons _ ?_
  cases m.type.declaration? with
  | none => exact .refl _
  | some d => exact List.perm_middle

end Declaration

theorem sampleMembers_issued {limit : Nat} {path : Path} (name : String) {entries : List (String × Value)} :
    ∀ {scope : Scope} {position : Nat} {members : List Member},
      (sampleMembers limit scope position path entries).outcome = .ok members →
        Issued scope (Declaration.mk name members).names := by
  induction entries with
  | nil => intro scope position members h; cases h; exact ⟨List.nodup_nil, fun n hn => by cases hn⟩
  | cons e rest ih =>
    intro scope position members h
    obtain ⟨identifier, type, others, after, rfl, typed, ho, rfl⟩ := sampleMembers_cons_ok h
    refine Issued.perm ?_ (Declaration.names_cons name _ others)
    refine Issued.cons (scope.choose_free _) ?_
    cases typed with
    | plain _ ht => rw [ht]; exact ih ho
    | declared _ ht hn _ =>
      rw [ht, Option.map_some, hn]
      exact Issued.cons (Scope.choose_free _ _) (ih ho)

/-! ## All nodes -/

theorem Sampled.distinct {limit : Nat} {entries : List (String × Value)} {d : Declaration} (h : Sampled limit entries d) :
    d.Distinct := by
  obtain ⟨path, h⟩ := h
  have issued := sampleMembers_issued d.name h
  exact ⟨issued.1, issued.2⟩

theorem sampled_distinct {limit : Nat} {top : List (String × Value)} {root : Declaration}
    (h : Sampled limit top root) : root.AtEveryNode Declaration.Distinct := by
  intro around d node
  obtain ⟨entries, _, hs⟩ := node_sampled h node
  exact hs.distinct

/-! ## Names in view -/

theorem rootName_unreserved {asked name : String} (h : Command.rootName asked = .ok name) :
    name ∉ reservedTypeNames := by
  obtain ⟨_, _, free, rfl⟩ := Command.rootName_ok_iff.mp h
  exact free

/-- With no reserved name at the root and distinct names at every node, nothing in view
    anywhere bears a reserved name. -/
theorem scopes_unreserved {root : Declaration} (distinct : root.AtEveryNode Declaration.Distinct)
    (free : root.name ∉ reservedTypeNames) {around : List Declaration} {d : Declaration} (node : Node root around d) :
    ∀ scope ∈ scopes root around d, ∀ e ∈ scope, e.name ∉ reservedTypeNames := by
  intro scope hs e he
  rcases List.mem_append.mp hs with hs | hs
  · obtain ⟨outer, ho, rfl⟩ := List.mem_map.mp hs
    have known : ∃ around', Node root around' outer := by
      rcases List.mem_cons.mp ho with rfl | ho
      · exact ⟨around, node⟩
      · exact node.around outer ho
    obtain ⟨around', node'⟩ := known
    exact (distinct around' outer node').unreserved _ (Declaration.name_mem_names he)
  · rw [List.mem_singleton.mp hs, List.mem_singleton] at he
    rwa [he]

/-- At a node of such a tree, a member's type refers to what the member brings. -/
theorem lookUp_reference {root : Declaration} (distinct : root.AtEveryNode Declaration.Distinct)
    (free : root.name ∉ reservedTypeNames) {around : List Declaration} {d : Declaration} (node : Node root around d)
    {m : Member} (hm : m ∈ d.members) :
    lookUp (scopes root around d) m.type.reference = m.type.declaration? := by
  cases ht : m.type.declaration? with
  | some e =>
    have he : e ∈ d.nested := List.mem_filterMap.mpr ⟨m, hm, ht⟩
    rw [MemberType.reference_of_declaration? ht]
    exact Declaration.lookUp_innermost (List.nodup_append.mp (distinct around d node).nodup).2.1 he
  | none =>
    refine Declaration.lookUp_eq_none fun scope hs e he same => ?_
    exact scopes_unreserved distinct free node scope hs e he (same ▸ MemberType.reference_reserved ht)

/-! ## Samples -/

/-- At every node of a sample under an accepted name, the names are distinct and none is
    reserved. What a member's type names, looked up innermost first, is the declaration that
    the member brings; it is nothing if the member brings none. -/
theorem sample_names_resolve {asked name : String} {limit : Nat} {entries : List (String × Value)} {root d : Declaration}
    {around : List Declaration} (accepted : Command.rootName asked = .ok name)
    (sampled : (Declaration.ofSample limit name entries).outcome = .ok root) (node : Node root around d) :
    (d.members.map (·.identifier) ++ d.nested.map (·.name)).Nodup ∧
      (∀ n ∈ d.members.map (·.identifier) ++ d.nested.map (·.name), n ∉ reservedTypeNames) ∧
      ∀ m ∈ d.members, NamesType m.type.source m.type.reference ∧
        lookUp (scopes root around d) m.type.reference = m.type.declaration? := by
  obtain ⟨rfl, hs⟩ := ofSample_ok sampled
  have distinct := sampled_distinct hs
  have here := distinct around d node
  refine ⟨here.nodup, here.unreserved, fun m hm => ⟨m.type.source_namesType, ?_⟩⟩
  exact lookUp_reference distinct (rootName_unreserved accepted) node hm

def orders : List (String × Value) :=
  [("_id", .object [("$oid", .string "x")]),
   ("items", .array [.array [.object [("string", .object []), ("price", .number "1.0")], .null]])]

def item : Declaration := ⟨"Items", [⟨"string", "string", .declared "String2" []⟩, ⟨"price", "price", .float⟩]⟩

def ordersRoot : Declaration :=
  ⟨"ApiResponse",
    [⟨"_id", "_id", .declared "_id2" [⟨"$oid", "oid", .string⟩]⟩,
     ⟨"items", "items", .array (.array (.declared item.name item.members))⟩]⟩

theorem orders_names_resolve :
    Command.rootName "api response" = .ok "ApiResponse" ∧
      (Declaration.ofSample 128 "ApiResponse" orders).outcome = .ok ordersRoot ∧ Node ordersRoot [ordersRoot] item ∧
      lookUp (scopes ordersRoot [ordersRoot] item) "String2" = some ⟨"String2", []⟩ ∧
      lookUp (scopes ordersRoot [ordersRoot] item) "Float" = none := by
  have accepted : Command.rootName "api response" = .ok "ApiResponse" := by rfl
  have sampled : (Declaration.ofSample 128 "ApiResponse" orders).outcome = .ok ordersRoot := by rfl
  have nested : item ∈ ordersRoot.nested := by simp [ordersRoot, item, Declaration.nested, MemberType.declaration?]
  have node : Node ordersRoot [ordersRoot] item := .nested .root nested
  obtain ⟨_, _, resolve⟩ := sample_names_resolve accepted sampled node
  exact ⟨accepted, sampled, node, (resolve ⟨"string", "string", .declared "String2" []⟩ (List.mem_cons_self ..)).2,
    (resolve ⟨"price", "price", .float⟩ (List.mem_cons_of_mem _ (List.mem_cons_self ..))).2⟩

end Decodables
