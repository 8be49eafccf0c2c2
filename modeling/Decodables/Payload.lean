/-
  Decodables.Payload — a conversion as a JSON document, for a host that opens the source
  as a new document and shows the warnings itself.
-/

import Decodables.Conversion
import Decodables.Json.Layout

namespace Decodables

open Json (Value)

/-- The name of the kind of cause, and what else the cause tells. -/
def Cause.entries : Cause → List (String × Value)
  | .emptyArray => [("kind", .string "empty_array")]
  | .nullFirstElement => [("kind", .string "null_first_element")]
  | .mixedArray index first found =>
    [("kind", .string "mixed_array"), ("index", .number (toString index)),
     ("first", .string first), ("found", .string found)]
  | .emptyIdentifier key fallback =>
    [("kind", .string "empty_identifier"), ("key", .string key), ("fallback", .string fallback)]
  | .collision key wanted chosen =>
    [("kind", .string "identifier_collision"), ("key", .string key), ("wanted", .string wanted),
     ("chosen", .string chosen)]

def Warning.document (w : Warning) : Value :=
  .object (("path", .string w.path) :: w.cause.entries)

def Conversion.document (c : Conversion) : Value :=
  .object
    [("language", .string language), ("content", .string c.source),
     ("diagnostics", .array (c.warnings.map Warning.document))]

def Conversion.payload (c : Conversion) : String := c.document.layout ++ "\n"

end Decodables
