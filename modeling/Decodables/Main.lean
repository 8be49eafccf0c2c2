/-
  Decodables.Main — the program.
-/

import Decodables.Command.Run

namespace Decodables.Command

/-- The fault that an error of the system stands for. Some calls give the error's number
    with a minus sign. -/
def faultOf (error : IO.Error) : FileFault :=
  match error with
  | .noFileOrDirectory .. => .missing
  | .alreadyExists .. => .occupied
  | .inappropriateType _ number _ =>
    if number = 20 ∨ number = 0 - 20 then .notDirectory
    else if number = 21 ∨ number = 0 - 21 then .isDirectory
    else .other (toString error)
  | _ => .other (toString error)

def attempt {α : Type} (action : IO α) : IO (Except FileFault α) := do
  try
    return .ok (← action)
  catch error =>
    return .error (faultOf error)

/-- Making a directory's own dot fails because it is there. -/
def isDirectoryOnDisk (name : String) : IO Bool := do
  match ← attempt (IO.FS.createDir (name ++ "/.")) with
  | .error .occupied => return true
  | _ => return false

def systemHost : Host IO where
  readInput := attempt (do (← IO.getStdin).readBinToEnd)
  readFile := fun name => attempt (IO.FS.readBinFile name)
  isDirectory := isDirectoryOnDisk
  makeDirectory := fun name => attempt (IO.FS.createDir name)
  writeFile := fun name content => attempt (IO.FS.writeBinFile name content)
  print := fun text => do
    let out ← IO.getStdout
    out.putStr text
    out.flush
  complain := fun text => do (← IO.getStderr).putStr text

/-- Whether labels are colored: as the environment says, or else on a terminal. -/
def wantsColor : IO Bool := do
  match ← IO.getEnv "CLICOLOR_FORCE" with
  | some value => if value ≠ "0" then return true
  | none => pure ()
  if (← IO.getEnv "NO_COLOR").isSome then return false
  if (← IO.getEnv "CLICOLOR") == some "0" then return false
  (← IO.getStdout).isTty

end Decodables.Command

open Decodables.Command in
def main (args : List String) : IO UInt32 := do
  systemHost.run (← wantsColor) args
