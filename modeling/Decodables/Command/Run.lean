/-
  Decodables.Command.Run — a run of the program, from its words to its exit status.

  A run reads its input, answers the request, warns, and then delivers the answer. A
  failure ends it with status 1 and one message; it comes before any warning unless it
  is one of delivery. Words that make no request end it with status 2.
-/

import Decodables.Command.Answer
import Decodables.Command.Host
import Decodables.FileTree.Pathname

namespace Decodables.Command

/-- What a line on the standard error stream begins with. -/
inductive Label where
  | warning
  | error
  deriving DecidableEq, Repr

def Label.text (color : Bool) (label : Label) : String :=
  let (word, code) :=
    match label with
    | .warning => ("warning:", "33")
    | .error => ("error:", "31")
  if color then "\x1b[1;" ++ code ++ "m" ++ word ++ "\x1b[0m" else word

def Label.line (color : Bool) (label : Label) (message : String) : String :=
  label.text color ++ " " ++ message ++ "\n"

inductive RunFailure where
  /-- The file with the path was not read, or the standard input without one. -/
  | unread (path : Option String) (fault : FileFault)
  | unanswered (failure : Failure)
  | notCreated (path : String) (fault : FileFault)
  | unwritten (path : String) (fault : FileFault)
  deriving DecidableEq, Repr

def RunFailure.message : RunFailure → String
  | .unread none fault => "failed to read stdin: " ++ fault.message
  | .unread (some path) fault => "failed to read " ++ path ++ ": " ++ fault.message
  | .unanswered failure => failure.message
  | .notCreated path fault => "failed to create " ++ path ++ ": " ++ fault.message
  | .unwritten path fault => "failed to write " ++ path ++ ": " ++ fault.message

def Slot.name : Slot → String
  | .input => "INPUT"
  | .out => "--out"
  | .rootType => "--root-type"
  | .maxDepth => "--max-depth"

def Switch.name : Switch → String
  | .json => "--json"
  | .help => "--help"
  | .version => "--version"

def versionLine : String := "json-decodable 0.1.0\n"

def usageLines : List String :=
  ["Usage: json-decodable [OPTIONS] [INPUT]",
   "",
   "Converts a JSON document into nested Swift `Decodable` structs.",
   "",
   "  INPUT               the file to read; '-' or none reads the standard input",
   "  -o, --out PATH      the file to write instead of the standard output",
   "  --root-type NAME    the name of the outermost struct",
   "  --max-depth N       how deep arrays and objects may be nested",
   "  --json              answer with a JSON payload",
   "  -h, --help          print this text",
   "  -V, --version       print the version"]

def usage : String := String.join (usageLines.map (· ++ "\n"))

def Refusal.message : Refusal → String
  | .help => "usage was asked for"
  | .version => "the version was asked for"
  | .unexpected word => "unexpected argument " ++ quoted word
  | .valueMissing slot => "a value is required for " ++ slot.name
  | .notCount value => quoted value ++ " is no number for --max-depth"
  | .repeated option => option ++ " was given more than once"
  | .valueUnwanted switch => switch.name ++ " takes no value"

def isStandardInput (path : String) : Bool :=
  (Pathname.ofText path).agrees (Pathname.ofText "-")

def Arguments.source? (a : Arguments) : Option String := a.input.filter (!isStandardInput ·)

namespace Host

variable {m : Type → Type} [Monad m]

def obtain (host : Host m) (source : Option String) : m (Except RunFailure String) := do
  let bytes ←
    match source with
    | some path => host.readFile path
    | none => host.readInput
  match bytes with
  | .error fault => pure (.error (.unread source fault))
  | .ok bytes =>
    match decodeText bytes with
    | .error fault => pure (.error (.unread source fault))
    | .ok text => pure (.ok text)

def prepare (host : Host m) (path : String) : m (Except RunFailure Unit) :=
  match (Pathname.ofText path).parents.map Pathname.text with
  | [] => pure (.ok ())
  | parent :: above => do
    match ← host.ensureDirectories (parent :: above) with
    | .ok () => pure (.ok ())
    | .error fault => pure (.error (.notCreated parent fault))

def deliver (host : Host m) (out : Option String) (text : String) : m (Except RunFailure Unit) :=
  match out with
  | none => do
    host.print text
    pure (.ok ())
  | some path => do
    match ← host.prepare path with
    | .error failure => pure (.error failure)
    | .ok () =>
      match ← host.writeFile path text.toUTF8 with
      | .ok () => pure (.ok ())
      | .error fault => pure (.error (.unwritten path fault))

def perform (host : Host m) (color : Bool) (a : Arguments) : m (Except RunFailure Unit) := do
  match ← host.obtain a.source? with
  | .error failure => pure (.error failure)
  | .ok text =>
    match a.answer text with
    | .error failure => pure (.error (.unanswered failure))
    | .ok answer =>
      -- the warnings go out even if the delivery fails
      answer.warnings.forM fun w => host.complain (Label.warning.line color w.message)
      host.deliver a.out answer.text

def run (host : Host m) (color : Bool) (words : List String) : m UInt32 :=
  match Arguments.ofWords words with
  | .error .help => do
    host.print usage
    pure 0
  | .error .version => do
    host.print versionLine
    pure 0
  | .error refusal => do
    host.complain (Label.error.line color refusal.message)
    pure 2
  | .ok a => do
    match ← host.perform color a with
    | .ok () => pure 0
    | .error failure =>
      host.complain (Label.error.line color failure.message)
      pure 1

end Host

end Decodables.Command
