/-
  Decodables.Conversion — from a JSON text to Swift source.

  The text must be a JSON document, and the document an object. Faults of the text come
  before the shape of the document, and that before its depth.
-/

import Decodables.Declaration.Sample
import Decodables.Json.Document
import Decodables.Swift.Source

namespace Decodables

structure Settings where
  /-- The name of the outermost declaration. -/
  rootName : String
  /-- How many steps below the document a container may stand. -/
  maxDepth : Nat
  deriving DecidableEq, Repr

def Settings.standard : Settings := ⟨"JsonDecodable", 128⟩

structure Conversion where
  /-- Swift source that ends in a line feed. -/
  source : String
  warnings : List Warning
  deriving DecidableEq, Repr

inductive ConversionError where
  | notJson (error : Json.ReadError)
  | notObject (found : Json.Kind)
  | tooDeep (error : DepthExceeded)
  deriving DecidableEq, Repr

def ConversionError.message : ConversionError → String
  | .notJson _ => "json is invalid"
  | .notObject found => "top-level JSON value must be an object, found " ++ found.name
  | .tooDeep error => error.message

/-- The messages of an error and of what it comes from, outermost first. -/
def ConversionError.chain (e : ConversionError) : String :=
  match e with
  | .notJson error => e.message ++ ": " ++ error.message
  | _ => e.message

namespace Conversion

def language : String := "swift"

def ofDocument (settings : Settings) (document : Json.Value) : Except ConversionError Conversion :=
  match document with
  | .object entries =>
    let report := Declaration.ofSample settings.maxDepth settings.rootName entries
    match report.outcome with
    | .ok declaration => .ok ⟨declaration.source 0 ++ "\n", report.warnings⟩
    | .error error => .error (.tooDeep error)
  | other => .error (.notObject other.kind)

def ofText (settings : Settings) (text : String) : Except ConversionError Conversion :=
  match Json.Value.ofText? text with
  | .ok document => ofDocument settings document
  | .error error => .error (.notJson error)

end Conversion

end Decodables
