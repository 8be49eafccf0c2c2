/-
  Decodables.Unicode.Casing — case mappings as short tables.

  Most mapped characters come in stretches with one common offset (a to z), many of
  them with every second code point (ā, ă, ą, …). The few whose form has several
  characters (ß, ﬁ, ŉ) are listed one by one.
-/

namespace Decodables.Unicode

/-- Every `step`-th code point from `first` to `last` is mapped, and lies as far from
    its form as `first` lies from `target`. -/
structure CaseRun where
  first : Nat
  last : Nat
  step : Nat
  target : Nat

/-- The form of a code point by the ascending runs, itself if none maps it. -/
def shiftCase : List CaseRun → Nat → Nat
  | [], n => n
  | r :: rest, n =>
    if n < r.first then n
    else if n ≤ r.last then if (n - r.first) % r.step = 0 then r.target + (n - r.first) else n
    else shiftCase rest n

def caseForm (runs : List CaseRun) (expansions : List (Nat × String)) (c : Char) : List Char :=
  match expansions.lookup c.toNat with
  | some form => form.toList
  | none => [Char.ofNat (shiftCase runs c.toNat)]

end Decodables.Unicode
