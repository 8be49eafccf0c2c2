/-
  Decodables.Path — places in a JSON document, such as `$.users[0].name`.

  A key of ASCII letters, digits and underscores that does not start with a digit
  follows a dot. Any other key stands between brackets as a JSON string, an index as a
  number. So every step says where it ends, and a path names one place.
-/

import Decodables.Json.StringLiteral

namespace Decodables

inductive Step where
  | key (k : String)
  | index (i : Nat)
  deriving DecidableEq, Repr

/-- A place in a document: the text the path starts with, and the steps from there. -/
structure Path where
  root : String
  steps : List Step
  deriving DecidableEq, Repr

def isPlainKey (k : List Char) : Bool :=
  !k.isEmpty && !(k.head?.any Char.isDigit) && k.all fun c => c.isAlphanum || c == '_'

def Step.text : Step → List Char
  | .key k =>
    if isPlainKey k.toList then '.' :: k.toList
    else '[' :: (Json.StringLiteral.write k.toList ++ [']'])
  | .index i => '[' :: ((toString i).toList ++ [']'])

namespace Path

def ofRoot (root : String) : Path := ⟨root, []⟩

def top : Path := ofRoot "$"

def key (p : Path) (k : String) : Path := { p with steps := p.steps ++ [.key k] }

def index (p : Path) (i : Nat) : Path := { p with steps := p.steps ++ [.index i] }

def depth (p : Path) : Nat := p.steps.length

def text (p : Path) : String := String.ofList (p.root.toList ++ p.steps.flatMap Step.text)

end Path

end Decodables
