/-
  Decodables.Command.Answer — what a request makes of a text.

  The name of the outermost struct is derived from the name asked for. Where the name of
  a nested struct would be mended, this one is refused: nothing may be left of it, a
  number may stand at its head, or the generated members may need it for another type.
-/

import Decodables.Command.Arguments
import Decodables.Payload
import Decodables.Scope

namespace Decodables.Command

open Identifier (derive isReservedTypeName)

inductive Failure where
  /-- The name asked for leaves nothing a type can be named. -/
  | unusableName (asked : String)
  /-- The derived name means another type. -/
  | reservedName (derived : String)
  | unconverted (error : ConversionError)
  deriving DecidableEq, Repr

def Failure.message : Failure → String
  | .unusableName asked => "--root-type " ++ quoted asked ++ " is not a usable Swift type name"
  | .reservedName derived =>
    "--root-type " ++ quoted derived ++ " would shadow a type the generated members use"
  | .unconverted error => "Error converting JSON to Swift Decodable: " ++ error.chain

def rootName (asked : String) : Except Failure String :=
  let name := derive .pascal asked
  if name = "" ∨ startsNumeric name then .error (.unusableName asked)
  else if isReservedTypeName name then .error (.reservedName name)
  else .ok name

structure Answer where
  text : String
  warnings : List Warning
  deriving DecidableEq, Repr

namespace Arguments

def settings (a : Arguments) : Except Failure Settings :=
  match rootName (a.rootType.getD Settings.standard.rootName) with
  | .ok name => .ok ⟨name, a.maxDepth.getD Settings.standard.maxDepth⟩
  | .error failure => .error failure

def render (a : Arguments) (c : Conversion) : String := if a.json then c.payload else c.source

def answer (a : Arguments) (text : String) : Except Failure Answer :=
  match a.settings with
  | .error failure => .error failure
  | .ok settings =>
    match Conversion.ofText settings text with
    | .error error => .error (.unconverted error)
    | .ok c => .ok ⟨a.render c, c.warnings⟩

end Arguments

end Decodables.Command
