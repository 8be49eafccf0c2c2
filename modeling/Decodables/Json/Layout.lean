/-
  Decodables.Json.Layout — values as text over several lines.

  Every element and every entry stands on a line of its own, two spaces further in than
  the container. A container without any is written on one line. A colon is followed by
  a space, and nothing follows the value.
-/

import Decodables.Json.StringLiteral

namespace Decodables.Json.Layout

def newline (level : Nat) : List Char := '\n' :: List.replicate (2 * level) ' '

def separator {α : Type} (rest : List α) : List Char := if rest.isEmpty then [] else [',']

mutual

def value (level : Nat) : Value → List Char
  | .null => ['n', 'u', 'l', 'l']
  | .bool true => ['t', 'r', 'u', 'e']
  | .bool false => ['f', 'a', 'l', 's', 'e']
  | .number literal => literal.toList
  | .string s => StringLiteral.write s.toList
  | .array items =>
    if items.isEmpty then ['[', ']']
    else '[' :: (elements (level + 1) items ++ newline level ++ [']'])
  | .object members =>
    if members.isEmpty then ['\x7b', '\x7d']
    else '\x7b' :: (entries (level + 1) members ++ newline level ++ ['\x7d'])

def elements (level : Nat) : List Value → List Char
  | [] => []
  | v :: rest => newline level ++ value level v ++ separator rest ++ elements level rest

def entries (level : Nat) : List (String × Value) → List Char
  | [] => []
  | (key, v) :: rest =>
    newline level ++ StringLiteral.write key.toList ++ [':', ' '] ++ value level v ++ separator rest
      ++ entries level rest

end

end Decodables.Json.Layout

namespace Decodables.Json

def Value.layout (v : Value) : String := String.ofList (Layout.value 0 v)

end Decodables.Json
