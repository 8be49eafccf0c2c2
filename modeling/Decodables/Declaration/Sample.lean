/-
  Decodables.Declaration.Sample — the declaration that fits a sample document.

  Every object becomes a declaration, every entry a member, every value a type. A number
  is a float if its spelling has a point. An array is typed from its first element alone;
  an array that is empty, starts with null or holds several kinds is reported. A nested
  declaration is named after the key it stands under, also inside arrays.

  A container may stand as many steps below the document as the limit says. Scalars may
  stand anywhere.
-/

import Decodables.Declaration
import Decodables.Declaration.Report
import Decodables.Scope

namespace Decodables

open Json (Kind Value)

def arrayWarnings (path : Path) : List Value → List Warning
  | [] => [⟨path.text, .emptyArray⟩]
  | first :: rest =>
    let nulls := if first.kind = .null then [Cause.nullFirstElement] else []
    let mixed :=
      match (rest.zipIdx 1).find? fun e => e.1.kind != first.kind with
      | some (other, i) => [Cause.mixedArray i first.kind.name other.kind.name]
      | none => []
    (nulls ++ mixed).map (Warning.mk path.text)

def numberType (literal : String) : MemberType :=
  if literal.toList.contains '.' then .float else .int

/-- The names given so far in the declaration that a value belongs to, and the key and
    the position that a nested declaration is named after. -/
structure Naming where
  scope : Scope
  key : String
  position : Nat

def Naming.claim (n : Naming) (style : Identifier.Style) (path : Path) : Report (String × Naming) :=
  let c := n.scope.claim style n.key n.position path.text
  .warn c.warnings (c.name, { n with scope := c.scope })

mutual

def sampleType (limit : Nat) (naming : Naming) (path : Path) : Value → Report (MemberType × Naming)
  | .null => pure (.optionalAny, naming)
  | .bool _ => pure (.boolean, naming)
  | .number literal => pure (numberType literal, naming)
  | .string _ => pure (.string, naming)
  | .array items => do
    Report.guardDepth limit path
    let (element, naming) ← sampleElement limit naming path items
    pure (.array element, naming)
  | .object entries => do
    Report.guardDepth limit path
    let (name, naming) ← naming.claim .pascal path
    let members ← sampleMembers limit .initial 1 path entries
    pure (.declared name members, naming)

def sampleElement (limit : Nat) (naming : Naming) (path : Path) :
    List Value → Report (MemberType × Naming)
  | [] => .warn (arrayWarnings path []) (.unknown, naming)
  | first :: rest => do
    Report.warn (arrayWarnings path (first :: rest)) ()
    sampleType limit naming (path.index 0) first

def sampleMembers (limit : Nat) (scope : Scope) (position : Nat) (path : Path) :
    List (String × Value) → Report (List Member)
  | [] => pure []
  | (key, value) :: rest => do
    let place := path.key key
    -- the member has its name before a struct in its value asks the same scope for one
    let (identifier, naming) ← Naming.claim ⟨scope, key, position⟩ .camel place
    let (type, naming) ← sampleType limit naming place value
    let members ← sampleMembers limit naming.scope (position + 1) path rest
    pure (⟨key, identifier, type⟩ :: members)

end

def Declaration.ofSample (limit : Nat) (name : String) (entries : List (String × Value)) :
    Report Declaration := do
  let members ← sampleMembers limit .initial 1 .top entries
  pure ⟨name, members⟩

end Decodables
