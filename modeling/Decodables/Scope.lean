/-
  Decodables.Scope — the names of one declaration.

  Members and nested types share one set of names, which holds the reserved type names
  from the start. A key asks for the name derived from it, for a name by its position if
  it derives none, and gets the first free one of that name, name2, name3 and so on.
  Whatever differs from the derived name is reported.
-/

import Decodables.Identifier.Derive
import Decodables.Identifier.Reserved
import Decodables.Unicode.Numeric
import Decodables.Warning

namespace Decodables

open Identifier

structure Scope where
  /-- The names taken, the last one first. -/
  taken : List String
  deriving DecidableEq, Repr

structure Wish where
  name : String
  causes : List Cause
  deriving DecidableEq, Repr

def startsNumeric (name : String) : Bool := name.toList.head?.any Unicode.isNumeric

def fallbackName (style : Style) (position : Nat) : String :=
  match style with
  | .camel => "field" ++ toString position
  | .pascal => "Field" ++ toString position

/-- The name that a key at a position asks for. A lone underscore is no name, and a
    number at the head goes behind an underscore. -/
def Wish.ofKey (style : Style) (key : String) (position : Nat) : Wish :=
  let name := derive style key
  if name = "" ∨ name = "_" then
    let fallback := fallbackName style position
    ⟨fallback, [.emptyIdentifier key fallback]⟩
  else if startsNumeric name then ⟨"_" ++ name, []⟩
  else ⟨name, []⟩

namespace Scope

def initial : Scope := ⟨reservedTypeNames⟩

/-- The first of `wanted` with `n`, `n + 1`, … behind it that is not taken. Among as many
    candidates as there are taken names besides `wanted` and one more, one is free. -/
def firstFree (taken : List String) (wanted : String) : Nat → Nat → String
  | 0, n => wanted ++ toString n
  | tries + 1, n =>
    let candidate := wanted ++ toString n
    if taken.contains candidate then firstFree taken wanted tries (n + 1) else candidate

def choose (s : Scope) (wanted : String) : String :=
  if s.taken.contains wanted then firstFree s.taken wanted s.taken.length 2 else wanted

def take (s : Scope) (name : String) : Scope := ⟨name :: s.taken⟩

structure Claim where
  name : String
  warnings : List Warning
  scope : Scope
  deriving DecidableEq, Repr

def claim (s : Scope) (style : Style) (key : String) (position : Nat) (path : String) : Claim :=
  let wish := Wish.ofKey style key position
  let chosen := s.choose wish.name
  let renamed := if chosen = wish.name then [] else [Cause.collision key wish.name chosen]
  ⟨chosen, (wish.causes ++ renamed).map (Warning.mk path), s.take chosen⟩

end Scope

end Decodables
