/-
  Decodables.Swift.Source — declarations as Swift structs.

  A struct lists its members. If a member's name differs from its key, a table of keys
  follows with a case for every member. The nested structs come last, each after a blank
  line, in the order of the members that own them.
-/

import Decodables.Declaration
import Decodables.Identifier.Reserved
import Decodables.Swift.Line
import Decodables.Swift.StringLiteral

namespace Decodables

open Identifier (declared)
open Swift (Line)

def MemberType.source : MemberType → String
  | .string => "String"
  | .int => "Int"
  | .float => "Float"
  | .boolean => "Bool"
  | .optionalAny => "Any?"
  | .unknown => "Any?"
  | .array element => "[" ++ element.source ++ "]"
  | .declared name _ => name

def memberLine (level : Nat) (m : Member) : Line :=
  .text level ("let " ++ declared m.identifier ++ ": " ++ m.type.source)

def caseLine (level : Nat) (m : Member) : Line :=
  .text level <|
    if m.matchesKey then "case " ++ declared m.identifier
    else "case " ++ declared m.identifier ++ " = " ++ Swift.StringLiteral.write m.key

def keyTable (level : Nat) (members : List Member) : List Line :=
  if members.any fun m => !m.matchesKey then
    .blank :: .text level "enum CodingKeys: String, CodingKey \x7b"
      :: (members.map (caseLine (level + 1)) ++ [.text level "\x7d"])
  else []

def structLines (level : Nat) (name : String) (members : List Member) (nested : List Line) :
    List Line :=
  if members.isEmpty then [.text level ("struct " ++ name ++ ": Decodable \x7b\x7d")]
  else
    .text level ("struct " ++ name ++ ": Decodable \x7b")
      :: (members.map (memberLine (level + 1)) ++ keyTable (level + 1) members ++ nested
        ++ [.text level "\x7d"])

mutual

/-- The lines of the struct that a type brings, after a blank line. -/
def MemberType.blocks (level : Nat) : MemberType → List Line
  | .declared name members =>
    .blank :: structLines level name members (memberBlocks (level + 1) members)
  | .array element => element.blocks level
  | _ => []

def memberBlocks (level : Nat) : List Member → List Line
  | [] => []
  | ⟨_, _, type⟩ :: rest => type.blocks level ++ memberBlocks level rest

end

namespace Declaration

def lines (level : Nat) (d : Declaration) : List Line :=
  structLines level d.name d.members (memberBlocks (level + 1) d.members)

def source (level : Nat) (d : Declaration) : String := Line.unlines (d.lines level)

end Declaration

end Decodables
