/-
  Decodables.Declaration — the nested declarations that are generated, as a tree.

  A declaration has members in the order of the keys they stand for. A member's type may
  bring a declaration of its own, alone or as the element of arrays; it belongs to that
  member only.
-/

namespace Decodables

/-- A member over a type of member types. -/
structure MemberOf (τ : Type) where
  /-- The key in the document. -/
  key : String
  /-- The name in the generated code. -/
  identifier : String
  type : τ
  deriving Repr

inductive MemberType where
  | string
  | int
  | float
  | boolean
  /-- The type of a null. -/
  | optionalAny
  /-- The type of the elements of an empty array. -/
  | unknown
  | array (element : MemberType)
  /-- A nested declaration by its name and members. -/
  | declared (name : String) (members : List (MemberOf MemberType))
  deriving Repr, Inhabited

abbrev Member := MemberOf MemberType

structure Declaration where
  name : String
  members : List Member
  deriving Repr

def MemberOf.matchesKey {τ : Type} (m : MemberOf τ) : Bool := m.identifier == m.key

/-- The declaration that a type brings, looked for through arrays. -/
def MemberType.declaration? : MemberType → Option Declaration
  | .declared name members => some ⟨name, members⟩
  | .array element => element.declaration?
  | _ => none

namespace Declaration

def isEmpty (d : Declaration) : Bool := d.members.isEmpty

def needsCodingKeys (d : Declaration) : Bool := d.members.any fun m => !m.matchesKey

def nested (d : Declaration) : List Declaration := d.members.filterMap (·.type.declaration?)

end Declaration

end Decodables
