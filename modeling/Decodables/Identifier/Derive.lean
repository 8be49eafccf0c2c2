/-
  Decodables.Identifier.Derive — from a JSON key to a name in camel or Pascal case.

  A key is stripped of what cannot lead a name, the words after separators are raised,
  the separators are dropped, and the first character takes the case of the style. The
  result is empty if no character of the key can lead a name.
-/

import Decodables.Identifier.Characters
import Decodables.Unicode.Lowercase
import Decodables.Unicode.Uppercase

namespace Decodables.Identifier

open Unicode

inductive Style where
  | camel
  | pascal
  deriving DecidableEq, Repr

def strip (s : List Char) : List Char := s.dropWhile fun c => !isLeading c

/-- What becomes of a run of separators at the end of a key, given last character first.
    Behind at least one separator the last one that is no line feed takes the place of a
    word's first character; what follows it stays. -/
def closeRun (run : List Char) : List Char :=
  match run.dropWhile (· == '\n') with
  | c :: _ :: _ => uppercase c ++ run.takeWhile (· == '\n')
  | _ => run.reverse

/-- Replaces every run of separators and the character after it by that character in
    uppercase. `run` holds the separators since the last other character, last one first. -/
def raiseFrom (run : List Char) : List Char → List Char
  | [] => closeRun run
  | c :: rest =>
    if isSeparator c then raiseFrom (c :: run) rest
    else if run.isEmpty then c :: raiseFrom [] rest
    else uppercase c ++ raiseFrom [] rest

def raise (s : List Char) : List Char := raiseFrom [] s

def recase (style : Style) : List Char → List Char
  | [] => []
  | c :: rest =>
    match style with
    | .camel => lowercase c ++ rest
    | .pascal => uppercase c ++ rest

/-- The name that a key suggests, empty if it suggests none. -/
def derive (style : Style) (key : String) : String :=
  String.ofList (recase style ((raise (strip key.toList)).filter isNameChar))

end Decodables.Identifier
