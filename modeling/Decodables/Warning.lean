/-
  Decodables.Warning — what a conversion had to settle on its own: an array that does
  not tell its element type, a key that does not make a name.

  A warning is a record for whoever reads the result, so its fields are texts: the path
  of the value, the key, the names, the kinds by their names.
-/

import Decodables.Quoted

namespace Decodables

inductive Cause where
  /-- An empty array; its elements may be anything. -/
  | emptyArray
  /-- The first element is null; the elements may be anything. -/
  | nullFirstElement
  /-- The element at `index` is of another kind than the first one. -/
  | mixedArray (index : Nat) (first found : String)
  /-- The key leaves nothing to name a member or a type by. -/
  | emptyIdentifier (key fallback : String)
  /-- The name derived from the key was taken. -/
  | collision (key wanted chosen : String)
  deriving DecidableEq, Repr

structure Warning where
  /-- The path of the value that gave rise to the warning. -/
  path : String
  cause : Cause
  deriving DecidableEq, Repr

def Cause.message : Cause → String
  | .emptyArray => "empty array, element type defaults to `Any?`"
  | .nullFirstElement => "first array element is null, element type defaults to `Any?`"
  | .mixedArray index first found =>
    "element " ++ toString index ++ " is " ++ found ++ " but element 0 is " ++ first
      ++ "; typed from element 0"
  | .emptyIdentifier key fallback =>
    "key " ++ quoted key ++ " has no usable identifier characters, using `" ++ fallback ++ "`"
  | .collision key wanted chosen =>
    "key " ++ quoted key ++ " derives `" ++ wanted ++ "`, already taken; using `" ++ chosen ++ "`"

def Warning.message (w : Warning) : String := w.path ++ ": " ++ w.cause.message

end Decodables
