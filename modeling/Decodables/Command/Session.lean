/-
  Decodables.Command.Session — a host that is a value.

  A session holds the files, the input, and what was written so far, so that a run on it
  is a function from one session to the next.
-/

import Decodables.Command.Run
import Decodables.FileTree

namespace Decodables.Command

structure Session where
  files : FileTree
  /-- The bytes of the standard input. -/
  input : ByteArray
  /-- What went to the standard output. -/
  output : String
  /-- What went to the standard error stream. -/
  complaints : String
  deriving DecidableEq

namespace Session

def start (files : FileTree) (input : ByteArray) : Session := ⟨files, input, "", ""⟩

def change (s : Session) : Except FileFault FileTree → Except FileFault Unit × Session
  | .ok files => (.ok (), { s with files })
  | .error fault => (.error fault, s)

def host : Host (StateM Session) where
  readInput := fun s => (.ok s.input, s)
  readFile := fun name s => (s.files.read name, s)
  isDirectory := fun name s => (s.files.isDirectory name, s)
  makeDirectory := fun name s => s.change (s.files.makeDirectory name)
  writeFile := fun name content s => s.change (s.files.write name content)
  print := fun text s => ((), { s with output := s.output ++ text })
  complain := fun text s => ((), { s with complaints := s.complaints ++ text })

def run (s : Session) (color : Bool) (words : List String) : UInt32 × Session :=
  host.run color words s

end Session

end Decodables.Command
