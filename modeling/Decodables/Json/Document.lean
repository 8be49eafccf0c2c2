/-
  Decodables.Json.Document — reading a JSON document.

  Containers nest at most `maxNesting` deep, and opening one more is a fault. The
  budget of containers that may still be opened bounds the recursion, and the loops
  over elements and entries end because every round leaves a shorter text.

  An object whose first key is `numberMarker` spells a number: its only value is a
  string that holds a numeral.
-/

import Decodables.Json.Numeral
import Decodables.Json.StringLiteral

namespace Decodables.Json

/-- How many containers may stand inside one another. -/
def maxNesting : Nat := 127

/-- The first key of an object that spells a number. -/
def numberMarker : String := "$serde_json::private::Number"

namespace Document

/-! ## Words and numbers -/

def word (letters : List Char) (value : Value) (s : List Char) :
    Except Fault (Reading Value (s.length + 1)) :=
  match letters, s with
  | [], s => .ok ⟨value, s, Nat.lt_succ_self _⟩
  | _ :: _, [] => .error (.here .endInValue [])
  | l :: letters, c :: r =>
    if c = l then do
      let v ← word letters value r
      .ok (v.widen (by simp only [List.length_cons]; omega))
    else .error (.taken .expectedIdent (c :: r))

def numeral (s : List Char) : Except Fault (Reading Value s.length) := do
  let n ← Numeral.read s
  .ok ⟨.number (String.ofList n.value), n.rest, n.shorter⟩

/-! ## Numbers spelled as objects -/

/-- How a message names a numeral: an integer of a machine word by its value. A zero with
    a minus sign is no integer. -/
def numeralShown (literal : List Char) : String :=
  match literal with
  | '-' :: ds =>
    let n := (String.ofList ds).toNat?.getD 0
    if 0 < n ∧ n ≤ Nat.pow 2 63 then "integer `-" ++ toString n ++ "`" else "number"
  | ds =>
    let n := (String.ofList ds).toNat?.getD (Nat.pow 2 64)
    if n < Nat.pow 2 64 then "integer `" ++ toString n ++ "`" else "number"

/-- The fault of a value that is no string where a numeral should be given as one. Words
    and numerals count as read, an opening bracket does not. -/
def notNumeralText (s : List Char) : Fault :=
  match s with
  | [] => .next .endInValue []
  | c :: r =>
    if c = 'n' then named "null" (word ['u', 'l', 'l'] .null r)
    else if c = 't' then named "boolean `true`" (word ['r', 'u', 'e'] (.bool true) r)
    else if c = 'f' then named "boolean `false`" (word ['a', 'l', 's', 'e'] (.bool false) r)
    else if c = '[' then .here (.notNumeralText "sequence") (c :: r)
    else if c = '\x7b' then .here (.notNumeralText "map") (c :: r)
    else if c = '-' ∨ c.isDigit then
      match Numeral.read (c :: r) with
      | .error fault => fault
      | .ok n => .here (.notNumeralText (numeralShown n.value)) n.rest
    else .next .expectedValue (c :: r)
where
  named {bound : Nat} (found : String) : Except Fault (Reading Value bound) → Fault
    | .error fault => fault
    | .ok v => .here (.notNumeralText found) v.rest

def spelledNumber (s : List Char) : Except Fault (Reading Value s.length) :=
  match h : skipSpace s with
  | '"' :: r => do
    let text ← StringLiteral.read r
    match Numeral.ofText? text.value.toList with
    | .error error => .error (.inNumeral error)
    | .ok literal =>
      match h' : skipSpace text.rest with
      | '\x7d' :: t =>
        .ok ⟨.number (String.ofList literal), t, by
          have h₁ := length_skipSpace_le s
          have h₂ := length_skipSpace_le text.rest
          have h₃ := text.shorter
          simp only [h, h', List.length_cons] at h₁ h₂
          omega⟩
      | [] => .error (.next .endInObject [])
      | ',' :: t => .error (.next .trailingComma (',' :: t))
      | t => .error (.next .trailingCharacters t)
  | t => .error (notNumeralText t)

/-! ## Arrays and objects -/

def colon (s : List Char) : Except Fault (Reading Unit s.length) :=
  match h : skipSpace s with
  | ':' :: r =>
    .ok ⟨(), r, by
      have h₁ := length_skipSpace_le s
      simp only [h, List.length_cons] at h₁
      omega⟩
  | [] => .error (.next .endInObject [])
  | t => .error (.next .expectedColon t)

/-- The elements after the first, each behind a comma, up to the closing bracket. `done`
    is what was read so far, last element first. -/
def elements (value : Reader Value) (bound : Nat) (done : List Value) (s : List Char)
    (le : s.length ≤ bound) : Except Fault (Reading Value bound) :=
  match h : skipSpace s with
  | [] => .error (.next .endInList [])
  | c :: r =>
    have h₁ : r.length < s.length := by
      have := length_skipSpace_le s
      simp only [h, List.length_cons] at this
      omega
    if c = ']' then .ok ⟨.array done.reverse, r, by omega⟩
    else if c = ',' then
      match h' : skipSpace r with
      | [] => .error (.next .endInValue [])
      | d :: t =>
        if d = ']' then .error (.next .trailingComma (d :: t))
        else
          match value (d :: t) with
          | .error fault => .error fault
          | .ok v =>
            have h₂ : v.rest.length < s.length := by
              have h₃ := v.shorter
              have h₄ := length_skipSpace_le r
              simp only [h'] at h₄
              omega
            elements value bound (v.value :: done) v.rest (by omega)
    else .error (.next .expectedListCommaOrEnd (c :: r))
  termination_by s.length

def array (value : Reader Value) (s : List Char) : Except Fault (Reading Value s.length) :=
  match h : skipSpace s with
  | [] => .error (.next .endInList [])
  | c :: r =>
    have h₁ := length_skipSpace_le s
    if c = ']' then
      .ok ⟨.array [], r, by simp only [h, List.length_cons] at h₁; omega⟩
    else
      match value (c :: r) with
      | .error fault => .error fault
      | .ok v =>
        elements value s.length [v.value] v.rest (by
          have h₂ := v.shorter
          simp only [h] at h₁
          omega)

def entry (value : Reader Value) (s : List Char) :
    Except Fault (Reading (String × Value) s.length) := do
  let key ← StringLiteral.read s
  let c ← colon key.rest
  let v ← value c.rest
  .ok ⟨(key.value, v.value), v.rest, by
    have h₁ := key.shorter
    have h₂ := c.shorter
    have h₃ := v.shorter
    omega⟩

/-- The object of the entries that were read, the last one first. Of entries with one key
    the first gives the place and the last the value. -/
def objectOf (done : List (String × Value)) : Value :=
  .object (done.foldr (fun e entries => putEntry e.1 e.2 entries) [])

def entries (value : Reader Value) (bound : Nat) (done : List (String × Value)) (s : List Char)
    (le : s.length ≤ bound) : Except Fault (Reading Value bound) :=
  match h : skipSpace s with
  | [] => .error (.next .endInObject [])
  | c :: r =>
    have h₁ : r.length < s.length := by
      have := length_skipSpace_le s
      simp only [h, List.length_cons] at this
      omega
    if c = '\x7d' then .ok ⟨objectOf done, r, by omega⟩
    else if c = ',' then
      match h' : skipSpace r with
      | [] => .error (.next .endInValue [])
      | d :: t =>
        if d = '"' then
          match entry value t with
          | .error fault => .error fault
          | .ok e =>
            have h₂ : e.rest.length < s.length := by
              have h₃ := e.shorter
              have h₄ := length_skipSpace_le r
              simp only [h', List.length_cons] at h₄
              omega
            entries value bound (e.value :: done) e.rest (by omega)
        else if d = '\x7d' then .error (.next .trailingComma (d :: t))
        else .error (.next .keyNotString (d :: t))
    else .error (.next .expectedObjectCommaOrEnd (c :: r))
  termination_by s.length

def object (value : Reader Value) (s : List Char) : Except Fault (Reading Value s.length) :=
  match h : skipSpace s with
  | [] => .error (.next .endInObject [])
  | c :: r =>
    have h₁ : r.length < s.length := by
      have := length_skipSpace_le s
      simp only [h, List.length_cons] at this
      omega
    if c = '\x7d' then .ok ⟨.object [], r, h₁⟩
    else if c = '"' then do
      let key ← StringLiteral.read r
      let tail ← colon key.rest
      have h₂ := key.shorter
      have h₃ := tail.shorter
      -- the marker counts as the first key only; behind another one it is a key like all
      if key.value = numberMarker then do
        let n ← spelledNumber tail.rest
        .ok (n.widen (by omega))
      else do
        let v ← value tail.rest
        entries value s.length [(key.value, v.value)] v.rest (by
          have h₄ := v.shorter
          omega)
    else .error (.next .keyNotString (c :: r))

/-! ## Values and documents -/

/-- A value, inside of which `budget` containers may still be opened one in another. -/
def value (budget : Nat) (s : List Char) : Except Fault (Reading Value s.length) :=
  match h : skipSpace s with
  | [] => .error (.next .endInValue [])
  | c :: r =>
    have le : r.length + 1 ≤ s.length := by
      have := length_skipSpace_le s
      simpa only [h, List.length_cons] using this
    if c = '"' then do
      let text ← StringLiteral.read r
      .ok ⟨.string text.value, text.rest, Nat.lt_of_lt_of_le text.shorter (Nat.le_of_succ_le le)⟩
    else if c = '[' then
      match budget with
      | 0 => .error (.next .tooDeep (c :: r))
      | budget + 1 => do
        let v ← array (value budget) r
        .ok (v.widen (Nat.le_of_succ_le le))
    else if c = '\x7b' then
      match budget with
      | 0 => .error (.next .tooDeep (c :: r))
      | budget + 1 => do
        let v ← object (value budget) r
        .ok (v.widen (Nat.le_of_succ_le le))
    else if c = 'n' then do
      let v ← word ['u', 'l', 'l'] .null r
      .ok (v.widen le)
    else if c = 't' then do
      let v ← word ['r', 'u', 'e'] (.bool true) r
      .ok (v.widen le)
    else if c = 'f' then do
      let v ← word ['a', 'l', 's', 'e'] (.bool false) r
      .ok (v.widen le)
    else if c = '-' ∨ c.isDigit then do
      let n ← numeral (c :: r)
      .ok (n.widen le)
    else .error (.next .expectedValue (c :: r))

def whole (s : List Char) : Except Fault Value := do
  let v ← value maxNesting s
  match skipSpace v.rest with
  | [] => .ok v.value
  | t => .error (.next .trailingCharacters t)

end Document

def Value.ofText? (text : String) : Except ReadError Value :=
  (Document.whole text.toList).mapError (Fault.locate text.toList)

end Decodables.Json
