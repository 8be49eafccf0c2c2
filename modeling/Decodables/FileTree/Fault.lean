/-
  Decodables.FileTree.Fault — why a file or a directory is not to be had.
-/

namespace Decodables

inductive FileFault where
  | missing
  /-- Something is there already. -/
  | occupied
  | notDirectory
  | isDirectory
  /-- The bytes are no UTF-8. -/
  | notText
  /-- Any other fault, as the system tells it. -/
  | other (message : String)
  deriving DecidableEq, Repr

def FileFault.message : FileFault → String
  | .missing => "No such file or directory (os error 2)"
  | .occupied => "File exists (os error 17)"
  | .notDirectory => "Not a directory (os error 20)"
  | .isDirectory => "Is a directory (os error 21)"
  | .notText => "stream did not contain valid UTF-8"
  | .other message => message

def decodeText (bytes : ByteArray) : Except FileFault String :=
  match String.fromUTF8? bytes with
  | some text => .ok text
  | none => .error .notText

end Decodables
