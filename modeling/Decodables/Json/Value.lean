/-
  Decodables.Json.Value — JSON documents as data.

  A number is kept as the text that spells it, so `1.0` and `1` stay apart. An object
  is its entries in the order of the text; the reader makes their keys distinct.
-/

namespace Decodables.Json

inductive Value where
  | null
  | bool (b : Bool)
  | number (literal : String)
  | string (s : String)
  | array (items : List Value)
  | object (entries : List (String × Value))
  deriving Repr, Inhabited

inductive Kind where
  | null
  | boolean
  | number
  | string
  | array
  | object
  deriving DecidableEq, Repr

def Kind.name : Kind → String
  | .null => "null"
  | .boolean => "boolean"
  | .number => "number"
  | .string => "string"
  | .array => "array"
  | .object => "object"

def Value.kind : Value → Kind
  | .null => .null
  | .bool _ => .boolean
  | .number _ => .number
  | .string _ => .string
  | .array _ => .array
  | .object _ => .object

/-- The entries with one more: a new key goes to the end, a key that is there keeps its
    place and takes the new value. -/
def putEntry (key : String) (value : Value) : List (String × Value) → List (String × Value)
  | [] => [(key, value)]
  | e :: rest => if e.1 = key then (key, value) :: rest else e :: putEntry key value rest

mutual

def Value.keysDistinct : Value → Bool
  | .array items => itemKeysDistinct items
  | .object entries => decide (entries.map (·.1)).Nodup && entryKeysDistinct entries
  | _ => true

def itemKeysDistinct : List Value → Bool
  | [] => true
  | item :: rest => item.keysDistinct && itemKeysDistinct rest

def entryKeysDistinct : List (String × Value) → Bool
  | [] => true
  | (_, value) :: rest => value.keysDistinct && entryKeysDistinct rest

end

end Decodables.Json
