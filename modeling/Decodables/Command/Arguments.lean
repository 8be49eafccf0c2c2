/-
  Decodables.Command.Arguments — the words of a command line as a request.

  A word is an option (`--name`, `--name=value`, `-o value`, `-ovalue`), a value of the
  option before it, or the one operand, the file to read. A `-` alone is no option, and
  behind the word `--` every word is an operand.

  Words are taken from left to right and the first fault is the answer. A word that is
  no known option is a fault at once. What a slot was given is checked later, when the
  next option or operand begins or the words end; a value that is attached to its option
  is checked at once.
-/

namespace Decodables.Command

/-- What takes a value. -/
inductive Slot where
  /-- The operand. -/
  | input
  | out
  | rootType
  | maxDepth
  deriving DecidableEq, Repr

inductive Switch where
  | json
  | help
  | version
  deriving DecidableEq, Repr

inductive Refusal where
  /-- Asked for the usage. -/
  | help
  /-- Asked for the version. -/
  | version
  /-- An unknown option, or a second operand. -/
  | unexpected (word : String)
  /-- An option without its value, or an empty path. -/
  | valueMissing (slot : Slot)
  /-- The value is not a number that fits a word. -/
  | notCount (value : String)
  | repeated (option : String)
  /-- A value for an option that takes none. -/
  | valueUnwanted (switch : Switch)
  deriving DecidableEq, Repr

structure Arguments where
  /-- The file to read. -/
  input : Option String
  /-- The file to write. -/
  out : Option String
  rootType : Option String
  maxDepth : Option Nat
  /-- Whether the answer is the payload. -/
  json : Bool
  deriving DecidableEq, Repr

/-- The longest of all nestings that can be asked for, the greatest 64-bit number. -/
def greatestCount : Nat := Nat.pow 2 64 - 1

def digitsValue (digits : List Char) : Nat :=
  digits.foldl (fun n c => 10 * n + (c.toNat - '0'.toNat)) 0

def count? (text : String) : Option Nat :=
  let digits :=
    match text.toList with
    | '+' :: rest => rest
    | all => all
  if digits.isEmpty || !digits.all Char.isDigit then none
  else
    let n := digitsValue digits
    if n ≤ greatestCount then some n else none

structure Scan where
  /-- What is read and checked. -/
  arguments : Arguments
  /-- A slot that is being given, with the value if there is one. -/
  pending : Option (Slot × Option String)
  /-- Whether the word `--` was there. -/
  operandsOnly : Bool
  deriving DecidableEq, Repr

namespace Scan

def start : Scan := ⟨⟨none, none, none, none, false⟩, none, false⟩

def give (a : Arguments) (slot : Slot) (value : Option String) : Except Refusal Arguments :=
  match slot, value with
  | slot, none => .error (.valueMissing slot)
  | .input, some path =>
    if path.isEmpty then .error (.valueMissing .input) else .ok { a with input := some path }
  | .out, some path =>
    if a.out.isSome then .error (.repeated "--out")
    else if path.isEmpty then .error (.valueMissing .out)
    else .ok { a with out := some path }
  | .rootType, some name =>
    if a.rootType.isSome then .error (.repeated "--root-type")
    else .ok { a with rootType := some name }
  | .maxDepth, some text =>
    if a.maxDepth.isSome then .error (.repeated "--max-depth")
    else
      match count? text with
      | some n => .ok { a with maxDepth := some n }
      | none => .error (.notCount text)

/-- Checks the pending slot, so that the next one may begin. -/
def settle (s : Scan) : Except Refusal Scan :=
  match s.pending with
  | none => .ok s
  | some (slot, value) => do
    let a ← give s.arguments slot value
    .ok { s with arguments := a, pending := none }

def await (s : Scan) (slot : Slot) : Except Refusal Scan := do
  let s ← s.settle
  .ok { s with pending := some (slot, none) }

def attach (s : Scan) (slot : Slot) (value : String) : Except Refusal Scan := do
  let s ← s.settle
  let a ← give s.arguments slot (some value)
  .ok { s with arguments := a }

def flip (s : Scan) (switch : Switch) : Except Refusal Scan := do
  let s ← s.settle
  match switch with
  | .help => .error .help
  | .version => .error .version
  | .json =>
    if s.arguments.json then .error (.repeated "--json")
    else .ok { s with arguments := { s.arguments with json := true } }

def operand (s : Scan) (word : String) : Except Refusal Scan :=
  -- a second operand is refused before the pending slot is checked
  if s.arguments.input.isSome || s.pending.any (·.1 = .input) then .error (.unexpected word)
  else do
    let s ← s.settle
    .ok { s with pending := some (.input, some word) }

def long? (name : String) : Option (Slot ⊕ Switch) :=
  match name with
  | "out" => some (.inl .out)
  | "root-type" => some (.inl .rootType)
  | "max-depth" => some (.inl .maxDepth)
  | "json" => some (.inr .json)
  | "help" => some (.inr .help)
  | "version" => some (.inr .version)
  | _ => none

def long (s : Scan) (word : String) (body : List Char) : Except Refusal Scan :=
  let value :=
    match body.dropWhile (· != '=') with
    | [] => none
    | _ :: value => some (String.ofList value)
  match long? (String.ofList (body.takeWhile (· != '='))), value with
  | some (.inl slot), some value => s.attach slot value
  | some (.inl slot), none => s.await slot
  | some (.inr switch), some _ => .error (.valueUnwanted switch)
  | some (.inr switch), none => s.flip switch
  | none, _ => .error (.unexpected word)

/-- Takes the short options of a word. The value of `-o` reaches to the word's end; one
    equals sign before it does not belong to it. -/
def short (s : Scan) (word : String) : List Char → Except Refusal Scan
  | [] => .ok s
  | 'o' :: rest =>
    match rest with
    | [] => s.await .out
    | '=' :: value => s.attach .out (String.ofList value)
    | value => s.attach .out (String.ofList value)
  | 'h' :: _ => s.flip .help
  | 'V' :: _ => s.flip .version
  | _ => .error (.unexpected word)

def plain (s : Scan) (word : String) : Except Refusal Scan :=
  match s.pending with
  | some (slot, none) => .ok { s with pending := some (slot, some word) }
  | _ => s.operand word

def word (s : Scan) (w : String) : Except Refusal Scan :=
  if s.operandsOnly then s.operand w
  else
    match w.toList with
    | ['-', '-'] => .ok { s with operandsOnly := true }
    | '-' :: '-' :: body => s.long w body
    | '-' :: c :: rest => s.short w (c :: rest)
    | _ => s.plain w

end Scan

def Arguments.ofWords (words : List String) : Except Refusal Arguments := do
  let s ← words.foldlM Scan.word Scan.start
  let s ← s.settle
  .ok s.arguments

end Decodables.Command
