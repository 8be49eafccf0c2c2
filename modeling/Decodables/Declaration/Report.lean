/-
  Decodables.Declaration.Report — results with the warnings reported on the way.

  Warnings are only ever added, also by a computation that fails: a failure keeps what
  was reported before it. The one failure is nesting beyond a limit.
-/

import Decodables.Path
import Decodables.Warning

namespace Decodables

structure DepthExceeded where
  limit : Nat
  path : Path
  deriving DecidableEq, Repr

def DepthExceeded.message (e : DepthExceeded) : String :=
  "nesting at " ++ e.path.text ++ " exceeds the depth limit of " ++ toString e.limit

structure Report (α : Type) where
  warnings : List Warning
  outcome : Except DepthExceeded α

namespace Report

def ok {α : Type} (a : α) : Report α := ⟨[], .ok a⟩

def andThen {α β : Type} (r : Report α) (f : α → Report β) : Report β :=
  match r.outcome with
  | .error e => ⟨r.warnings, .error e⟩
  | .ok a =>
    let next := f a
    ⟨r.warnings ++ next.warnings, next.outcome⟩

instance : Monad Report where
  pure := ok
  bind := andThen

def warn {α : Type} (warnings : List Warning) (a : α) : Report α := ⟨warnings, .ok a⟩

def guardDepth (limit : Nat) (path : Path) : Report Unit :=
  if path.depth ≤ limit then ok () else ⟨[], .error ⟨limit, path⟩⟩

end Report

end Decodables
