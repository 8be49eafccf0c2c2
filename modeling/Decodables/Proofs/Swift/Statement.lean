/-
  Decodables.Proofs.Swift.Statement — a line of source as a statement.

  The reader knows the lines that declarations are made of, by their tokens: the opening of
  a struct, a struct without members, a member with its type, the opening of a table of
  keys, a case of it, and a closing brace. It refuses any other line.

  Proved, over every member:
  - `tokens_source`, `TypeExpr.read_tokens`: a type is read as it was written.
  - `ofLine?_member`, `ofLine?_case`: the line of a member, or of its case in the table of
    keys, is read as that member with its type, or as that case with its raw value.
  - `ofLine?_opening`, `ofLine?_bare`: the line that opens a struct is read with its name.
-/

import Decodables.Proofs.DeclarationTree
import Decodables.Proofs.Swift.Token

namespace Decodables

open Identifier (declared)

namespace Swift

/-! ## Types -/

inductive TypeExpr where
  | named (name : String)
  | optional (name : String)
  | array (element : TypeExpr)
  deriving DecidableEq, Repr

namespace TypeExpr

def tokens : TypeExpr → List Token
  | .named name => [.word name]
  | .optional name => [.word name, .mark '?']
  | .array element => .mark '[' :: (element.tokens ++ [.mark ']'])

def read : List Token → Option (TypeExpr × List Token)
  | .mark '[' :: rest =>
    match read rest with
    | some (element, .mark ']' :: rest) => some (.array element, rest)
    | _ => none
  | .word name :: .mark '?' :: rest => some (.optional name, rest)
  | .word name :: rest => some (.named name, rest)
  | _ => none

theorem read_tokens (t : TypeExpr) {rest : List Token} (h : rest.head? ≠ some (.mark '?')) :
    read (t.tokens ++ rest) = some (t, rest) := by
  induction t generalizing rest with
  | named name =>
    cases rest with
    | nil => rfl
    | cons token rest =>
      have other : token ≠ .mark '?' := fun e => h (congrArg some e)
      simp [tokens, read, other]
  | optional name => rfl
  | array element ih =>
    have inner : read (element.tokens ++ .mark ']' :: rest) = some (element, .mark ']' :: rest) := ih (by simp)
    simp only [tokens, List.cons_append, List.append_assoc, List.nil_append, read, inner]

end TypeExpr

/-! ## Statements -/

inductive Statement where
  | blank
  /-- The opening of a struct. -/
  | opening (name : String)
  /-- A struct without members. -/
  | bare (name : String)
  | member (name : Name) (type : TypeExpr)
  /-- The opening of a table of keys. -/
  | table
  /-- A case in a table of keys, with its raw value if it has one. -/
  | case (name : Name) (raw : Option String)
  | closing
  deriving DecidableEq, Repr

namespace Statement

def ofTokens? : List Token → Option Statement
  | [] => some .blank
  | [.word "struct", .word name, .mark ':', .word "Decodable", .mark '\x7b'] => some (.opening name)
  | [.word "struct", .word name, .mark ':', .word "Decodable", .mark '\x7b', .mark '\x7d'] => some (.bare name)
  | .word "let" :: name :: .mark ':' :: type =>
    match Name.ofToken? name, TypeExpr.read type with
    | some name, some (type, []) => some (.member name type)
    | _, _ => none
  | [.word "enum", .word "CodingKeys", .mark ':', .word "String", .mark ',', .word "CodingKey", .mark '\x7b'] =>
    some .table
  | [.word "case", name] => (Name.ofToken? name).map (.case · none)
  | [.word "case", name, .mark '=', .literal raw] => (Name.ofToken? name).map (.case · (some raw))
  | [.mark '\x7d'] => some .closing
  | _ => none

def ofLine? (line : List Char) : Option Statement := (Lexing.between.tokens line).bind ofTokens?

end Statement

end Swift

open Swift

def MemberType.expr : MemberType → TypeExpr
  | .string => .named "String"
  | .int => .named "Int"
  | .float => .named "Float"
  | .boolean => .named "Bool"
  | .optionalAny => .optional "Any"
  | .unknown => .optional "Any"
  | .array element => .array element.expr
  | .declared name _ => .named name

/-! ## Reading the lines of declarations -/

theorem tokens_source {t : MemberType} (h : IsName t.reference) {rest : List Char} (ends : Lexing.Ends rest) :
    Lexing.between.tokens (t.source.toList ++ rest) = (Lexing.between.tokens rest).map (t.expr.tokens ++ ·) := by
  match t with
  | .array element =>
    have spelled : (MemberType.array element).source.toList ++ rest = '[' :: (element.source.toList ++ ']' :: rest) := by
      simp [MemberType.source]
    have inner := tokens_source (t := element) h (Lexing.ends_cons (c := ']') (by decide) rest)
    rw [spelled, Lexing.tokens_mark (by decide), inner, Lexing.tokens_mark (by decide), Option.map_map, Option.map_map]
    congr 1
    funext rest
    simp [MemberType.expr, TypeExpr.tokens]
  | .string | .int | .float | .boolean | .declared _ _ => exact Lexing.tokens_word h ends
  | .optionalAny | .unknown =>
    have any : IsName "Any" := by decide
    have spelled : "Any?".toList ++ rest = "Any".toList ++ '?' :: rest := rfl
    rw [MemberType.source, spelled, Lexing.tokens_word any (Lexing.ends_cons (by decide) rest),
      Lexing.tokens_mark (by decide), Option.map_map]
    rfl

namespace Swift.Statement

theorem ofLine?_render (level : Nat) (content : String) :
    ofLine? (Line.text level content).render = ofLine? content.toList := by
  rw [ofLine?, Line.render, Lexing.tokens_spaces]
  rfl

theorem ofLine?_member (level : Nat) {m : Member} (named : IsName m.identifier) (typed : IsName m.type.reference) :
    ofLine? (memberLine level m).render = some (.member (Name.ofIdentifier m.identifier) m.type.expr) := by
  have word : IsName "let" := by decide
  have spelled : ("let " ++ declared m.identifier ++ ": " ++ m.type.source).toList =
      "let".toList ++ ' ' :: ((declared m.identifier).toList ++ ':' :: ' ' :: m.type.source.toList) := by
    simp
  have tokens : Lexing.between.tokens m.type.source.toList = some m.type.expr.tokens := by
    simpa [Lexing.tokens] using tokens_source typed Lexing.ends_nil
  have type : TypeExpr.read m.type.expr.tokens = some (m.type.expr, []) := by
    simpa using @TypeExpr.read_tokens m.type.expr [] (by simp)
  rw [memberLine, ofLine?_render, spelled, ofLine?, Lexing.tokens_word_space word,
    tokens_declared named (Lexing.ends_cons (by decide) _), Lexing.tokens_mark (by decide), Lexing.tokens_space, tokens]
  simp [ofTokens?, Name.ofToken?_token, type]

theorem ofLine?_case (level : Nat) {m : Member} (named : IsName m.identifier) :
    ofLine? (caseLine level m).render =
      some (.case (Name.ofIdentifier m.identifier) (if m.matchesKey then none else some m.key)) := by
  have word : IsName "case" := by decide
  rw [caseLine, ofLine?_render]
  by_cases same : m.matchesKey = true
  · have spelled : ("case " ++ declared m.identifier).toList =
        "case".toList ++ ' ' :: ((declared m.identifier).toList ++ []) := by simp
    rw [if_pos same, if_pos same, spelled, ofLine?, Lexing.tokens_word_space word, tokens_declared named Lexing.ends_nil]
    simp [Lexing.tokens, ofTokens?, Name.ofToken?_token]
  · have spelled : ("case " ++ declared m.identifier ++ " = " ++ StringLiteral.write m.key).toList =
        "case".toList ++ ' ' :: ((declared m.identifier).toList ++
          ' ' :: '=' :: ' ' :: ((StringLiteral.write m.key).toList ++ [])) := by simp
    rw [if_neg same, if_neg same, spelled, ofLine?, Lexing.tokens_word_space word,
      tokens_declared named (Lexing.ends_cons (by decide) _), Lexing.tokens_space, Lexing.tokens_mark (by decide),
      Lexing.tokens_space, Lexing.tokens_literal]
    simp [Lexing.tokens, ofTokens?, Name.ofToken?_token]

/-- A line that declares a struct: its tokens up to the name, and those of what follows. -/
theorem tokens_struct {name tail : String} (h : IsName name) (ends : Lexing.Ends tail.toList) :
    Lexing.between.tokens ("struct " ++ name ++ tail).toList =
      (Lexing.between.tokens tail.toList).map fun behind => .word "struct" :: .word name :: behind := by
  have word : IsName "struct" := by decide
  have spelled : ("struct " ++ name ++ tail).toList = "struct".toList ++ ' ' :: (name.toList ++ tail.toList) := by simp
  rw [spelled, Lexing.tokens_word_space word, Lexing.tokens_word h ends, Option.map_map]
  rfl

theorem ofLine?_opening (level : Nat) {name : String} (h : IsName name) :
    ofLine? (Line.text level ("struct " ++ name ++ ": Decodable \x7b")).render = some (.opening name) := by
  have ends : Lexing.Ends ": Decodable \x7b".toList := Lexing.ends_cons (by decide) _
  have tail : Lexing.between.tokens ": Decodable \x7b".toList = some [.mark ':', .word "Decodable", .mark '\x7b'] := rfl
  rw [ofLine?_render, ofLine?, tokens_struct h ends, tail]
  rfl

theorem ofLine?_bare (level : Nat) {name : String} (h : IsName name) :
    ofLine? (Line.text level ("struct " ++ name ++ ": Decodable \x7b\x7d")).render = some (.bare name) := by
  have ends : Lexing.Ends ": Decodable \x7b\x7d".toList := Lexing.ends_cons (by decide) _
  have tail : Lexing.between.tokens ": Decodable \x7b\x7d".toList =
      some [.mark ':', .word "Decodable", .mark '\x7b', .mark '\x7d'] := rfl
  rw [ofLine?_render, ofLine?, tokens_struct h ends, tail]
  rfl

theorem ofLine?_table (level : Nat) :
    ofLine? (Line.text level "enum CodingKeys: String, CodingKey \x7b").render = some .table := by
  rw [ofLine?_render]
  rfl

theorem ofLine?_closing (level : Nat) : ofLine? (Line.text level "\x7d").render = some .closing := by
  rw [ofLine?_render]
  rfl

end Swift.Statement

end Decodables
