/-
  Decodables.Proofs.SourceReading — reading source text back as a declaration.

  A block becomes a declaration once the blocks nested in it have: a type's name means the
  nested declaration of that name, or else one of the types that need no declaration. One
  distinction is not in the text, that between the type of a null and the type of the
  elements of an empty array; `settled` forgets it.

  Proved, of every declaration whose names are spelled as names and are distinct and
  unreserved at every node, whatever its keys:
  - `ofText_eq_settled`: the source of the declaration is read as the declaration.
  - `source_eq_iff`: two declarations have the same source at the same level just if they
    are the same once settled. No member, case or nested block is lost, moved or taken for
    another, and no key changes how the text is read.
-/

import Decodables.Proofs.KeyTable

namespace Decodables

open Swift

/-! ## Declarations without what the text leaves open -/

mutual

/-- The type with `unknown` taken for `optionalAny`, which is written the same. -/
def MemberType.settled : MemberType → MemberType
  | .unknown => .optionalAny
  | .array element => .array element.settled
  | .declared name members => .declared name (settleMembers members)
  | .string => .string
  | .int => .int
  | .float => .float
  | .boolean => .boolean
  | .optionalAny => .optionalAny

def settleMembers : List Member → List Member
  | [] => []
  | ⟨key, identifier, type⟩ :: rest => ⟨key, identifier, type.settled⟩ :: settleMembers rest

end

def Declaration.settled (d : Declaration) : Declaration := ⟨d.name, settleMembers d.members⟩

theorem settleMembers_eq (members : List Member) :
    settleMembers members = members.map fun m => { m with type := m.type.settled } := by
  induction members with
  | nil => rfl
  | cons m rest ih => rw [settleMembers, ih, List.map_cons]

theorem MemberType.source_settled (t : MemberType) : t.settled.source = t.source := by
  match t with
  | .array element => rw [settled, source, element.source_settled, source]
  | .declared _ _ | .string | .int | .float | .boolean | .optionalAny | .unknown => rfl

theorem MemberType.declaration?_settled (t : MemberType) : t.settled.declaration? = t.declaration?.map (·.settled) := by
  match t with
  | .array element => exact element.declaration?_settled
  | .declared _ _ | .string | .int | .float | .boolean | .optionalAny | .unknown => rfl

theorem Declaration.nested_settled (d : Declaration) : d.settled.nested = d.nested.map (·.settled) := by
  have brought : (fun m : Member => m.type.settled.declaration?) = fun m => m.type.declaration?.map (·.settled) :=
    funext fun m => m.type.declaration?_settled
  rw [nested, settled, settleMembers_eq, List.filterMap_map, nested, List.map_filterMap, ← brought]
  rfl

theorem structLines_settled (level : Nat) (name : String) (members : List Member) (nested : List Line) :
    structLines level name (settleMembers members) nested = structLines level name members nested := by
  have declared : (settleMembers members).map (memberLine (level + 1)) = members.map (memberLine (level + 1)) := by
    simp [settleMembers_eq, memberLine, MemberType.source_settled]
  have cases (level : Nat) : (settleMembers members).map (caseLine level) = members.map (caseLine level) := by
    simp [settleMembers_eq, caseLine, MemberOf.matchesKey]
  have needed : (settleMembers members).any (fun m => !m.matchesKey) = members.any fun m => !m.matchesKey := by
    simp [settleMembers_eq, MemberOf.matchesKey, Function.comp_def]
  have empty : (settleMembers members).isEmpty = members.isEmpty := by simp [settleMembers_eq]
  rw [structLines, keyTable, declared, cases, needed, empty, structLines, keyTable]

/-- The source says nothing of what is forgotten. -/
theorem Declaration.lines_settled (d : Declaration) (level : Nat) : d.settled.lines level = d.lines level := by
  induction d using Declaration.induction generalizing level with
  | step d ih =>
    have nested : (d.settled.nested.flatMap fun e => .blank :: e.lines (level + 1)) =
        d.nested.flatMap fun e => .blank :: e.lines (level + 1) := by
      rw [nested_settled, List.flatMap_map]
      rw [List.flatMap_def, List.flatMap_def, List.map_congr_left fun e he => by rw [ih e he]]
    rw [lines_eq, nested, settled, structLines_settled, lines_eq]

theorem Declaration.source_settled (d : Declaration) (level : Nat) : d.settled.source level = d.source level := by
  rw [source, lines_settled, source]

/-! ## The reader -/

namespace Swift

def basicType? : String → Option MemberType
  | "String" => some .string
  | "Int" => some .int
  | "Float" => some .float
  | "Bool" => some .boolean
  | _ => none

def TypeExpr.resolve (nested : List Declaration) : TypeExpr → Option MemberType
  | .named name =>
    match Declaration.lookUp [nested] name with
    | some d => some (.declared d.name d.members)
    | none => basicType? name
  | .optional name => if name = "Any" then some .optionalAny else none
  | .array element => (element.resolve nested).map .array

namespace Block

def keyed (b : Block) : List ((Name × TypeExpr) × String) := b.members.zip b.keys

def member? (nested : List Declaration) : (Name × TypeExpr) × String → Option Member
  | ((name, type), key) => (type.resolve nested).map fun type => ⟨key, name.letters, type⟩

mutual

def declaration? : Block → Option Declaration
  | ⟨name, members, table, nested⟩ =>
    (declarations? nested).bind fun nestedDeclarations =>
      ((keyed ⟨name, members, table, nested⟩).mapM (member? nestedDeclarations)).map fun members => ⟨name, members⟩

def declarations? : List Block → Option (List Declaration)
  | [] => some []
  | b :: rest => b.declaration?.bind fun d => (declarations? rest).map (d :: ·)

end

end Block

end Swift

def Declaration.ofText (text : String) : Option Declaration := (Block.ofText text).bind (·.declaration?)

/-! ## Declarations read back -/

/-- A type of a member means itself among the declarations nested beside it. -/
theorem MemberType.resolve_expr {nested : List Declaration} (distinct : (nested.map (·.name)).Nodup)
    (unreserved : ∀ e ∈ nested, e.name ∉ Identifier.reservedTypeNames) {t : MemberType}
    (owned : ∀ e, t.declaration? = some e → e ∈ nested) :
    t.expr.resolve (nested.map (·.settled)) = some t.settled := by
  -- No nested declaration stands in front of a type that needs none.
  have free {name : String} (h : name ∈ Identifier.reservedTypeNames) :
      Declaration.lookUp [nested.map (·.settled)] name = none := by
    refine Declaration.lookUp_eq_none fun scope hs d hd same => ?_
    obtain rfl := List.mem_singleton.mp hs
    obtain ⟨e, he, rfl⟩ := List.mem_map.mp hd
    exact unreserved e he (same ▸ h)
  match t with
  | .array element =>
    have inner := element.resolve_expr distinct unreserved owned
    rw [expr, TypeExpr.resolve, inner]
    rfl
  | .string => rw [expr, TypeExpr.resolve, free (by decide)]; rfl
  | .int => rw [expr, TypeExpr.resolve, free (by decide)]; rfl
  | .float => rw [expr, TypeExpr.resolve, free (by decide)]; rfl
  | .boolean => rw [expr, TypeExpr.resolve, free (by decide)]; rfl
  | .optionalAny | .unknown => rfl
  | .declared name members =>
    have names : (nested.map (·.settled)).map (·.name) = nested.map (·.name) := by simp [Declaration.settled]
    have here : (⟨name, members⟩ : Declaration).settled ∈ nested.map (·.settled) :=
      List.mem_map.mpr ⟨_, owned _ rfl, rfl⟩
    have found : Declaration.lookUp [nested.map (·.settled)] name = some (⟨name, members⟩ : Declaration).settled :=
      Declaration.lookUp_innermost (names ▸ distinct) here
    rw [expr, TypeExpr.resolve, found]
    rfl

theorem declarations?_map {nested : List Declaration} (h : ∀ e ∈ nested, e.picture.declaration? = some e.settled) :
    Block.declarations? (nested.map (·.picture)) = some (nested.map (·.settled)) := by
  induction nested with
  | nil => rfl
  | cons e rest ih =>
    rw [List.map_cons, Block.declarations?, h e (List.mem_cons_self ..), Option.bind_some,
      ih fun k hk => h k (List.mem_cons_of_mem _ hk)]
    rfl

theorem mapM_member? {nested : List Declaration} {members : List Member}
    (h : ∀ m ∈ members, m.type.expr.resolve nested = some m.type.settled) :
    (members.map fun m => (m.entry, m.key)).mapM (Block.member? nested) = some (settleMembers members) := by
  induction members with
  | nil => rfl
  | cons m rest ih =>
    have first : Block.member? nested (m.entry, m.key) = some ⟨m.key, m.identifier, m.type.settled⟩ := by
      rw [MemberOf.entry, Block.member?, h m (List.mem_cons_self ..)]
      rfl
    rw [List.map_cons, List.mapM_cons, first, ih fun k hk => h k (List.mem_cons_of_mem _ hk)]
    rfl

namespace Declaration

theorem picture_keyed (d : Declaration) : d.picture.keyed = d.members.map fun m => (m.entry, m.key) := by
  rw [Block.keyed, picture_keys]
  exact List.zip_map'

theorem declaration?_picture {d : Declaration} (distinct : d.AtEveryNode Distinct) :
    d.picture.declaration? = some d.settled := by
  induction d using induction with
  | step d ih =>
    obtain ⟨nodup, unreserved⟩ := distinct.root
    have resolved : ∀ m ∈ d.members, m.type.expr.resolve (d.nested.map (·.settled)) = some m.type.settled :=
      fun m hm => m.type.resolve_expr (List.nodup_append.mp nodup).2.1 (fun e he => unreserved e.name (name_mem_names he))
        fun e he => List.mem_filterMap.mpr ⟨m, hm, he⟩
    have read := mapM_member? resolved
    have nested := declarations?_map fun e he => ih e he (distinct.nested he)
    rw [← picture_keyed] at read
    rw [picture_eq] at read ⊢
    rw [Block.declaration?, nested, Option.bind_some, read]
    rfl

structure Readable (d : Declaration) : Prop extends Spelled d, Distinct d

instance : DecidablePred Readable := fun d =>
  decidable_of_iff (d.Spelled ∧ d.Distinct) ⟨fun h => ⟨h.1, h.2⟩, fun h => ⟨h.toSpelled, h.toDistinct⟩⟩

/-- The source of a declaration is read as the declaration. -/
theorem ofText_eq_settled {d : Declaration} (readable : d.AtEveryNode Readable) (level : Nat) :
    ofText (d.source level) = some d.settled := by
  have spelled : d.AtEveryNode Spelled := fun around x hx => (readable around x hx).toSpelled
  have distinct : d.AtEveryNode Distinct := fun around x hx => (readable around x hx).toDistinct
  rw [ofText, ofText_source spelled, Option.bind_some, declaration?_picture distinct]

/-- Two declarations have the same source at a level if and only if they are the same up to
    the type of the elements of an empty array, which is written like the type of a null. -/
theorem source_eq_iff {d e : Declaration} (hd : d.AtEveryNode Readable) (he : e.AtEveryNode Readable) (level : Nat) :
    d.source level = e.source level ↔ d.settled = e.settled := by
  constructor
  · intro same
    have left := ofText_eq_settled hd level
    rw [same, ofText_eq_settled he level] at left
    exact (Option.some.inj left).symm
  · intro same
    rw [← source_settled d, same, source_settled]

def drawer (element : MemberType) : Declaration :=
  ⟨"Drawer",
    [⟨"case a = \"\\\"\"\n    \x7d", "case", .array (.declared "Let" [⟨"", "let", .array element⟩])⟩,
      ⟨"struct", "struct", .declared "Nothing" []⟩]⟩

theorem drawers_alike :
    (drawer .unknown).AtEveryNode Readable ∧ (drawer .optionalAny).AtEveryNode Readable ∧
      (drawer .unknown).source 2 = (drawer .optionalAny).source 2 ∧
      (drawer .unknown).settled = (drawer .optionalAny).settled := by
  have left : (drawer .unknown).AtEveryNode Readable := by decide
  have right : (drawer .optionalAny).AtEveryNode Readable := by decide
  have same : (drawer .unknown).source 2 = (drawer .optionalAny).source 2 := rfl
  exact ⟨left, right, same, (source_eq_iff left right 2).mp same⟩

end Declaration

end Decodables
