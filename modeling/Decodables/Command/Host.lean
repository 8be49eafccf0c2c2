/-
  Decodables.Command.Host — what a run asks of the system around it.
-/

import Decodables.FileTree.Fault

namespace Decodables.Command

structure Host (m : Type → Type) where
  /-- All of the standard input. -/
  readInput : m (Except FileFault ByteArray)
  readFile : String → m (Except FileFault ByteArray)
  isDirectory : String → m Bool
  makeDirectory : String → m (Except FileFault Unit)
  writeFile : String → ByteArray → m (Except FileFault Unit)
  /-- Writes to the standard output. -/
  print : String → m Unit
  /-- Writes to the standard error stream. -/
  complain : String → m Unit

namespace Host

variable {m : Type → Type} [Monad m]

def ensureDirectory (host : Host m) (name : String) : m (Except FileFault Unit) := do
  match ← host.makeDirectory name with
  | .ok () => pure (.ok ())
  | .error fault => if ← host.isDirectory name then pure (.ok ()) else pure (.error fault)

/-- Makes the first directory of a list in which each is followed by its parent, and
    the parents too if they are missing. -/
def ensureDirectories (host : Host m) : List String → m (Except FileFault Unit)
  | [] => pure (.ok ())
  | name :: parents => do
    match ← host.ensureDirectory name with
    | .error .missing =>
      match ← host.ensureDirectories parents with
      | .ok () => host.ensureDirectory name
      | .error fault => pure (.error fault)
    | result => pure result

end Host

end Decodables.Command
