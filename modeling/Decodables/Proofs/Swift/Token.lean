/-
  Decodables.Proofs.Swift.Token — a line of source as tokens.

  A word is a longest run of name characters. A name may stand between back-quotes, a text
  between double quotes. Spaces only separate, a line feed is refused, and any other
  character is a mark of its own.

  Proved, over every name and every text:
  - `tokens_word`, `tokens_quoted`, `tokens_literal`, `tokens_mark`: what is written as
    one token is read as that token, and reading goes on behind it.
  - `tokens_declared`: an identifier is read as it was declared.
-/

import Decodables.Identifier.Characters
import Decodables.Identifier.Reserved
import Decodables.Proofs.Swift.LiteralReading

namespace Decodables

open Identifier (declared isNameChar keywords)

structure IsName (name : String) : Prop where
  nonempty : name.toList ≠ []
  spelled : ∀ c ∈ name.toList, isNameChar c

instance (name : String) : Decidable (IsName name) :=
  decidable_of_iff (name.toList ≠ [] ∧ name.toList.all isNameChar)
    ⟨fun h => ⟨h.1, List.all_eq_true.mp h.2⟩, fun h => ⟨h.nonempty, List.all_eq_true.mpr h.spelled⟩⟩

namespace Swift

inductive Token where
  | word (name : String)
  /-- A name between back-quotes. -/
  | quoted (name : String)
  | literal (text : String)
  | mark (c : Char)
  deriving DecidableEq, Repr

inductive Lexing where
  | between
  | word (letters : List Char)
  | quoted (letters : List Char)
  | literal (scan : StringLiteral.Scan)
  deriving DecidableEq, Repr

namespace Lexing

/-- The reader behind a character that belongs to no earlier token, and the token that it is. -/
def enter (c : Char) : Option (Lexing × List Token) :=
  if isNameChar c then some (.word [c], [])
  else if c = ' ' then some (.between, [])
  else if c = '`' then some (.quoted [], [])
  else if c = '"' then some (.literal .start, [])
  else if c = '\n' then none
  else some (.between, [.mark c])

def step : Lexing → Char → Option (Lexing × List Token)
  | .between, c => enter c
  | .word letters, c =>
    if isNameChar c then some (.word (letters ++ [c]), [])
    else (enter c).map fun next => (next.1, .word (String.ofList letters) :: next.2)
  | .quoted letters, c =>
    if c = '`' then some (.between, [.quoted (String.ofList letters)])
    else if isNameChar c then some (.quoted (letters ++ [c]), [])
    else none
  | .literal scan, c =>
    if scan.closes c then some (.between, [.literal (String.ofList scan.text)])
    else (scan.step c).map fun next => (.literal next, [])

def tokens : Lexing → List Char → Option (List Token)
  | .between, [] => some []
  | .word letters, [] => some [.word (String.ofList letters)]
  | _, [] => none
  | l, c :: rest => (l.step c).bind fun next => (next.1.tokens rest).map (next.2 ++ ·)

theorem tokens_cons (l : Lexing) (c : Char) (rest : List Char) :
    l.tokens (c :: rest) = (l.step c).bind fun next => (next.1.tokens rest).map (next.2 ++ ·) := by
  cases l <;> rfl

/-! ## Spaces and marks -/

theorem tokens_space (rest : List Char) : between.tokens (' ' :: rest) = between.tokens rest := by
  have entered : enter ' ' = some (.between, []) := by decide
  simp [tokens_cons, step, entered]

theorem tokens_spaces (n : Nat) (rest : List Char) :
    between.tokens (List.replicate n ' ' ++ rest) = between.tokens rest := by
  induction n with
  | zero => rfl
  | succ n ih => rw [List.replicate_succ, List.cons_append, tokens_space, ih]

def isMarkChar (c : Char) : Bool := !isNameChar c && c != ' ' && c != '`' && c != '"' && c != '\n'

theorem tokens_mark {c : Char} (h : isMarkChar c) (rest : List Char) :
    between.tokens (c :: rest) = (between.tokens rest).map (.mark c :: ·) := by
  simp only [isMarkChar, Bool.and_eq_true, Bool.not_eq_true', bne_iff_ne] at h
  obtain ⟨⟨⟨⟨name, space⟩, tick⟩, quote⟩, feed⟩ := h
  simp [tokens_cons, step, enter, name, space, tick, quote, feed]

/-! ## Words -/

theorem tokens_letters (letters : List Char) {w : List Char} (h : ∀ c ∈ w, isNameChar c) (rest : List Char) :
    (word letters).tokens (w ++ rest) = (word (letters ++ w)).tokens rest := by
  induction w generalizing letters with
  | nil => simp
  | cons c w ih =>
    have hc := h c (List.mem_cons_self ..)
    rw [List.cons_append, tokens_cons]
    simp only [step, hc, if_true, Option.bind_some, List.nil_append, Option.map_id']
    rw [ih _ fun d hd => h d (List.mem_cons_of_mem _ hd), List.append_assoc, List.singleton_append]

def Ends (rest : List Char) : Prop := ∀ c ∈ rest.head?, isNameChar c = false

theorem ends_nil : Ends [] := by
  intro c hc
  cases hc

theorem ends_cons {c : Char} (h : isNameChar c = false) (rest : List Char) : Ends (c :: rest) := by
  intro d hd
  cases hd
  exact h

theorem tokens_end (letters : List Char) {rest : List Char} (h : Ends rest) :
    (word letters).tokens rest = (between.tokens rest).map (.word (String.ofList letters) :: ·) := by
  cases rest with
  | nil => rfl
  | cons c rest =>
    have hc := h c (by simp)
    simp only [tokens_cons, step, hc, Bool.false_eq_true, if_false]
    cases enter c with
    | none => rfl
    | some next => simp [Option.map_map, Function.comp_def]

theorem tokens_word {name : String} (h : IsName name) {rest : List Char} (ends : Ends rest) :
    between.tokens (name.toList ++ rest) = (between.tokens rest).map (.word name :: ·) := by
  obtain ⟨c, w, hw⟩ := List.exists_cons_of_ne_nil h.nonempty
  have spelled := h.spelled
  rw [hw] at spelled
  have hc := spelled c (List.mem_cons_self ..)
  rw [hw, List.cons_append, tokens_cons]
  simp only [step, enter, hc, if_true, Option.bind_some, List.nil_append, Option.map_id']
  rw [tokens_letters _ fun d hd => spelled d (List.mem_cons_of_mem _ hd), List.singleton_append, tokens_end _ ends,
    ← hw, String.ofList_toList]

theorem tokens_word_space {name : String} (h : IsName name) (rest : List Char) :
    between.tokens (name.toList ++ ' ' :: rest) = (between.tokens rest).map (.word name :: ·) := by
  rw [tokens_word h (ends_cons (by decide) rest), tokens_space]

/-! ## Names between back-quotes, and literals -/

theorem tokens_inside (letters : List Char) {w : List Char} (h : ∀ c ∈ w, isNameChar c) (rest : List Char) :
    (quoted letters).tokens (w ++ '`' :: rest) =
      (between.tokens rest).map (.quoted (String.ofList (letters ++ w)) :: ·) := by
  induction w generalizing letters with
  | nil => simp [tokens_cons, step]
  | cons c w ih =>
    have hc := h c (List.mem_cons_self ..)
    have tick : c ≠ '`' := by
      rintro rfl
      exact absurd hc (by decide)
    rw [List.cons_append, tokens_cons]
    simp only [step, tick, hc, if_false, if_true, Option.bind_some, List.nil_append, Option.map_id']
    rw [ih _ fun d hd => h d (List.mem_cons_of_mem _ hd), List.append_assoc, List.singleton_append]

theorem tokens_quoted {name : String} (h : IsName name) (rest : List Char) :
    between.tokens ('`' :: (name.toList ++ '`' :: rest)) = (between.tokens rest).map (.quoted name :: ·) := by
  have entered : enter '`' = some (.quoted [], []) := by decide
  rw [tokens_cons]
  simp only [step, entered, Option.bind_some, List.nil_append, Option.map_id']
  rw [tokens_inside [] h.spelled, List.nil_append, String.ofList_toList]

theorem tokens_pass {s t : StringLiteral.Scan} {w : List Char} (h : s.pass w = some t) (rest : List Char) :
    (literal s).tokens (w ++ rest) = (literal t).tokens rest := by
  induction w generalizing s with
  | nil => cases h; rfl
  | cons c w ih =>
    simp only [StringLiteral.Scan.pass] at h
    rw [List.cons_append, tokens_cons]
    split at h
    · cases h
    · rename_i hc
      cases hs : s.step c with
      | none => rw [hs] at h; cases h
      | some u =>
        rw [hs] at h
        simp only [step, hc, Bool.false_eq_true, if_false, hs, Option.map_some, Option.bind_some, List.nil_append,
          Option.map_id']
        exact ih h

theorem tokens_literal (text : String) (rest : List Char) :
    between.tokens ((StringLiteral.write text).toList ++ rest) =
      (between.tokens rest).map (.literal text :: ·) := by
  have entered : enter '"' = some (.literal .start, []) := by decide
  have closed : StringLiteral.Scan.closes ⟨text.toList, .plain⟩ '"' = true := rfl
  rw [StringLiteral.write, String.toList_ofList, List.cons_append, List.append_assoc, tokens_cons]
  simp only [step, entered, Option.bind_some, List.nil_append, Option.map_id']
  rw [tokens_pass (StringLiteral.pass_body text.toList), List.singleton_append, tokens_cons]
  simp [step, closed]

end Lexing

/-! ## Names -/

structure Name where
  letters : String
  quoted : Bool
  deriving DecidableEq, Repr

namespace Name

def ofIdentifier (identifier : String) : Name := ⟨identifier, keywords.contains identifier⟩

def token (n : Name) : Token := if n.quoted then .quoted n.letters else .word n.letters

/-- The name that a token can stand for; a keyword is one only between back-quotes. -/
def ofToken? : Token → Option Name
  | .word letters => if keywords.contains letters then none else some ⟨letters, false⟩
  | .quoted letters => some ⟨letters, true⟩
  | _ => none

theorem ofToken?_token (identifier : String) :
    ofToken? (ofIdentifier identifier).token = some (ofIdentifier identifier) := by
  by_cases keyword : identifier ∈ keywords
  · simp [ofIdentifier, token, ofToken?, keyword]
  · simp [ofIdentifier, token, ofToken?, keyword]

end Name

theorem tokens_declared {identifier : String} (h : IsName identifier) {rest : List Char} (ends : Lexing.Ends rest) :
    Lexing.between.tokens ((declared identifier).toList ++ rest) =
      (Lexing.between.tokens rest).map ((Name.ofIdentifier identifier).token :: ·) := by
  unfold declared Name.ofIdentifier Name.token
  by_cases keyword : keywords.contains identifier = true
  · have quoted : ("`" ++ identifier ++ "`").toList ++ rest = '`' :: (identifier.toList ++ '`' :: rest) := by simp
    rw [if_pos keyword, keyword, quoted, Lexing.tokens_quoted h]
    rfl
  · rw [if_neg keyword, Bool.eq_false_iff.mpr keyword, Lexing.tokens_word h ends]
    rfl

end Swift

end Decodables
