/-
  Decodables.Json.Reading — what a reader hands on: the value it found and the text
  after it.

  The text after is shorter than a bound that the type carries. A reader of `s` promises
  a rest shorter than `s`, so a loop that reads again from the rest ends.
-/

import Decodables.Json.Fault
import Decodables.Json.Value

namespace Decodables.Json

/-- A value and the text left after it, of fewer than `bound` characters. -/
structure Reading (α : Type) (bound : Nat) where
  value : α
  rest : List Char
  shorter : rest.length < bound

/-- Reads at least one character of a text. -/
abbrev Reader (α : Type) := (s : List Char) → Except Fault (Reading α s.length)

def Reading.widen {α : Type} {m n : Nat} (r : Reading α m) (h : m ≤ n) : Reading α n :=
  ⟨r.value, r.rest, Nat.lt_of_lt_of_le r.shorter h⟩

def isSpace (c : Char) : Bool := c == ' ' || c == '\n' || c == '\t' || c == '\r'

def skipSpace (s : List Char) : List Char := s.dropWhile isSpace

theorem length_skipSpace_le (s : List Char) : (skipSpace s).length ≤ s.length :=
  (List.dropWhile_sublist isSpace).length_le

end Decodables.Json
