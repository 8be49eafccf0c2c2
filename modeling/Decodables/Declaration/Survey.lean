/-
  Decodables.Declaration.Survey — samples taken one after another.

  Under one limit each sample gives its own declaration, or fails on its own. The
  warnings of all samples are kept in one list, those of failed ones too.
-/

import Decodables.Declaration.Sample

namespace Decodables

structure Survey where
  /-- How many steps below its document a container may stand. -/
  limit : Nat
  /-- What was reported so far. -/
  warnings : List Warning
  deriving DecidableEq, Repr

namespace Survey

def start (limit : Nat) : Survey := ⟨limit, []⟩

def sample (s : Survey) (name : String) (entries : List (String × Json.Value)) :
    Except DepthExceeded Declaration × Survey :=
  let report := Declaration.ofSample s.limit name entries
  (report.outcome, { s with warnings := s.warnings ++ report.warnings })

def samples (s : Survey) :
    List (String × List (String × Json.Value)) → List (Except DepthExceeded Declaration) × Survey
  | [] => ([], s)
  | (name, entries) :: rest =>
    let first := s.sample name entries
    let others := first.2.samples rest
    (first.1 :: others.1, others.2)

end Survey

end Decodables
