/-
  Decodables.Json.StringLiteral — strings between quotes, written and read.

  Written: a quote and a backslash get a backslash, the five controls with a letter get
  that letter, the other characters below U+0020 become `\u00xx`, and all else is copied.
  Read: every escape of the JSON grammar, with a surrogate pair as one character. A
  surrogate that stands alone, a bare control character and an open end are faults.
-/

import Decodables.Json.Reading

namespace Decodables.Json.StringLiteral

/-! ## Writing -/

def escapeChar (c : Char) : List Char :=
  match c with
  | '"' => ['\\', '"']
  | '\\' => ['\\', '\\']
  | '\x08' => ['\\', 'b']
  | '\t' => ['\\', 't']
  | '\n' => ['\\', 'n']
  | '\x0c' => ['\\', 'f']
  | '\r' => ['\\', 'r']
  | c =>
    if c.toNat < 0x20 then
      ['\\', 'u', '0', '0', Nat.digitChar (c.toNat / 16), Nat.digitChar (c.toNat % 16)]
    else [c]

def write (s : List Char) : List Char := '"' :: (s.flatMap escapeChar ++ ['"'])

/-! ## Reading -/

def hexDigit? (c : Char) : Option Nat :=
  if '0' ≤ c ∧ c ≤ '9' then some (c.toNat - 48)
  else if 'a' ≤ c ∧ c ≤ 'f' then some (c.toNat - 87)
  else if 'A' ≤ c ∧ c ≤ 'F' then some (c.toNat - 55)
  else none

/-- The fault of four bytes that are not hexadecimal digits. All four count as read, and
    fewer than four are an open end. -/
def notHex (s : List Char) : Fault :=
  if byteCount s < 4 then .here .endInString []
  else .stopped .invalidEscape (byteCount s - 4) false

def fourHex (s : List Char) : Except Fault (Reading Nat s.length) :=
  match s with
  | a :: b :: c :: d :: r =>
    match hexDigit? a, hexDigit? b, hexDigit? c, hexDigit? d with
    | some i, some j, some k, some l =>
      .ok ⟨((i * 16 + j) * 16 + k) * 16 + l, r, by simp only [List.length_cons]; omega⟩
    | _, _, _, _ => .error (notHex (a :: b :: c :: d :: r))
  | s => .error (notHex s)

/-- The second half of a surrogate pair, whose first half is `high`. -/
def lowSurrogate (high : Nat) (s : List Char) : Except Fault (Reading Char s.length) :=
  match s with
  | '\\' :: 'u' :: r => do
    let low ← fourHex r
    if 0xDC00 ≤ low.value ∧ low.value ≤ 0xDFFF then
      .ok ⟨Char.ofNat (0x10000 + (high - 0xD800) * 0x400 + (low.value - 0xDC00)), low.rest, by
        have h := low.shorter
        simp only [List.length_cons]
        omega⟩
    else .error (.here .loneSurrogate low.rest)
  | '\\' :: c :: r => .error (.taken .endOfHexEscape (c :: r))
  | ['\\'] => .error (.here .endInString [])
  | c :: r => .error (.taken .endOfHexEscape (c :: r))
  | [] => .error (.here .endInString [])

def unicodeEscape (s : List Char) : Except Fault (Reading Char s.length) := do
  let unit ← fourHex s
  if 0xDC00 ≤ unit.value ∧ unit.value ≤ 0xDFFF then .error (.here .loneSurrogate unit.rest)
  else if 0xD800 ≤ unit.value ∧ unit.value ≤ 0xDBFF then do
    let c ← lowSurrogate unit.value unit.rest
    .ok (c.widen (Nat.le_of_lt unit.shorter))
  else .ok ⟨Char.ofNat unit.value, unit.rest, unit.shorter⟩

def letterEscape? : Char → Option Char
  | '"' => some '"'
  | '\\' => some '\\'
  | '/' => some '/'
  | 'b' => some '\x08'
  | 'f' => some '\x0c'
  | 'n' => some '\n'
  | 'r' => some '\r'
  | 't' => some '\t'
  | _ => none

def escape (s : List Char) : Except Fault (Reading Char s.length) :=
  match s with
  | [] => .error (.here .endInString [])
  | 'u' :: r => do
    let c ← unicodeEscape r
    .ok (c.widen (Nat.le_succ r.length))
  | c :: r =>
    match letterEscape? c with
    | some x => .ok ⟨x, r, Nat.lt_succ_self r.length⟩
    | none => .error (.taken .invalidEscape (c :: r))

/-- Reads on to the closing quote. `done` is what was read so far, last character first. -/
def readOn (bound : Nat) (done : List Char) (s : List Char) (h : s.length ≤ bound) :
    Except Fault (Reading String bound) :=
  match s, h with
  | [], _ => .error (.here .endInString [])
  | c :: r, h =>
    if c = '"' then .ok ⟨String.ofList done.reverse, r, h⟩
    else if c = '\\' then
      match escape r with
      | .error fault => .error fault
      | .ok x =>
        have shorter := x.shorter
        readOn bound (x.value :: done) x.rest (by simp only [List.length_cons] at h; omega)
    else if c.toNat < 0x20 then .error (.taken .controlCharacter (c :: r))
    else readOn bound (c :: done) r (Nat.le_of_succ_le h)
  termination_by s.length

def read (s : List Char) : Except Fault (Reading String s.length) :=
  readOn s.length [] s (Nat.le_refl _)

end Decodables.Json.StringLiteral
