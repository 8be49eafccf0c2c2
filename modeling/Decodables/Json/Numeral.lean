/-
  Decodables.Json.Numeral — the spelling of numbers: an optional minus sign, digits
  without a superfluous zero, an optional fraction, an optional exponent.

  What follows a numeral is left to whoever reads on; `ofText?` is the reader for a
  text that holds a numeral and nothing else.
-/

import Decodables.Json.Reading

namespace Decodables.Json.Numeral

def digits (s : List Char) : List Char × List Char :=
  (s.takeWhile Char.isDigit, s.dropWhile Char.isDigit)

theorem length_digits_snd_le (s : List Char) : (digits s).2.length ≤ s.length :=
  (List.dropWhile_sublist Char.isDigit).length_le

def exponentSign : List Char → List Char × List Char
  | '+' :: s => (['+'], s)
  | '-' :: s => (['-'], s)
  | s => ([], s)

theorem length_exponentSign_snd_le (s : List Char) : (exponentSign s).2.length ≤ s.length := by
  unfold exponentSign
  split <;> simp

theorem length_behind_sign_lt (e : Char) {r sign t : List Char} {d : Char} (h : exponentSign r = (sign, d :: t)) :
    (digits t).2.length < (e :: r).length + 1 := by
  have h₁ := length_exponentSign_snd_le r
  have h₂ := length_digits_snd_le t
  simp only [h, List.length_cons] at h₁ ⊢
  omega

def exponent (s : List Char) : Except Fault (Reading (List Char) (s.length + 1)) :=
  match s with
  | [] => .ok ⟨[], [], Nat.lt_succ_self _⟩
  | e :: r =>
    if e = 'e' ∨ e = 'E' then
      match h : exponentSign r with
      | (_, []) => .error (.here .endInValue [])
      | (sign, d :: t) =>
        if d.isDigit then
          .ok ⟨e :: (sign ++ d :: (digits t).1), (digits t).2, length_behind_sign_lt e h⟩
        else .error (.taken .invalidNumber (d :: t))
    else .ok ⟨[], e :: r, Nat.lt_succ_self _⟩

def fraction (s : List Char) : Except Fault (Reading (List Char) (s.length + 1)) :=
  match s with
  | '.' :: r =>
    match h : digits r with
    | ([], []) => .error (.next .endInValue [])
    | ([], t) => .error (.next .invalidNumber t)
    | (ds, t) => do
      let e ← exponent t
      .ok ⟨'.' :: (ds ++ e.value), e.rest, by
        have h₁ := length_digits_snd_le r
        have h₂ := e.shorter
        simp only [h, List.length_cons] at h₁ ⊢
        omega⟩
  | s => exponent s

def unsigned (s : List Char) : Except Fault (Reading (List Char) s.length) :=
  match s with
  | [] => .error (.here .endInValue [])
  | d :: r =>
    if d = '0' then
      if (r.head?.map Char.isDigit).getD false then .error (.next .invalidNumber r)
      else do
        let f ← fraction r
        .ok ⟨d :: f.value, f.rest, f.shorter⟩
    else if d.isDigit then do
      let f ← fraction (digits r).2
      .ok ⟨d :: ((digits r).1 ++ f.value), f.rest, by
        have h₁ := length_digits_snd_le r
        have h₂ := f.shorter
        simp only [List.length_cons]
        omega⟩
    else .error (.taken .invalidNumber (d :: r))

def read (s : List Char) : Except Fault (Reading (List Char) s.length) :=
  match s with
  | '-' :: r => do
    let u ← unsigned r
    .ok ⟨'-' :: u.value, u.rest, Nat.lt_succ_of_lt u.shorter⟩
  | s => unsigned s

/-- The numeral that a text consists of. Text after a numeral counts before a fault
    inside it. -/
def ofText? (s : List Char) : Except ReadError (List Char) :=
  match s with
  | [] => .error (Fault.locate s (.next .endInValue []))
  | c :: _ =>
    if c = '-' ∨ c.isDigit then
      match read s with
      | .ok r =>
        if r.rest = [] then .ok r.value
        else .error (Fault.locate s (.next .invalidNumber r.rest))
      | .error fault =>
        match fault with
        | .stopped _ unread _ =>
          if unread = 0 then .error (Fault.locate s fault)
          else .error (Fault.locate s (.stopped .invalidNumber unread true))
        | .inNumeral error => .error error
    else .error (Fault.locate s (.next .invalidNumber s))

end Decodables.Json.Numeral
