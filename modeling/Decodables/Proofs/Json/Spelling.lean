/-
  Decodables.Proofs.Json.Spelling — the texts of a value, whatever the white space in them.

  A text of a value is its tokens in order with white space between some of them. Two
  spacings are in use: none at all (`Value.compact`), and lines that are indented by the
  level of nesting (`Value.layout`). Both are cases of one writer, so that a reader has to
  be looked at once only.

  Proved, over every value:
  - `layout_eq_spelling`: the layout over lines is a spelling.
  - `spelling_head`: a spelling starts with a token of the value, and no closing bracket.
-/

import Decodables.Json.Layout
import Decodables.Proofs.Json.NumeralReading
import Decodables.Proofs.Json.ValueTree

namespace Decodables.Json

def Value.isSpelled : Value → Bool
  | .number literal => decide (Numeral.IsNumeral literal.toList)
  | _ => true

def Value.numeralsOnly (v : Value) : Bool := v.all Value.isSpelled

/-! ## Spellings -/

structure Spacing where
  /-- What stands in front of an element or an entry at a level of nesting, and in front of
      the bracket that closes a container at that level. -/
  line : Nat → List Char
  behindColon : List Char
  line_blank : ∀ level, ∀ c ∈ line level, isSpace c
  behindColon_blank : ∀ c ∈ behindColon, isSpace c

namespace Spacing

def tight : Spacing := ⟨fun _ => [], [], nofun, nofun⟩

def wide : Spacing where
  line := Layout.newline
  behindColon := [' ']
  line_blank := fun _ c hc => by
    rcases List.mem_cons.mp hc with rfl | hc
    · rfl
    · rw [List.eq_of_mem_replicate hc]; rfl
  behindColon_blank := fun c hc => by rw [List.mem_singleton.mp hc]; rfl

end Spacing

mutual

def Value.spelling (sp : Spacing) (level : Nat) : Value → List Char
  | .null => ['n', 'u', 'l', 'l']
  | .bool true => ['t', 'r', 'u', 'e']
  | .bool false => ['f', 'a', 'l', 's', 'e']
  | .number literal => literal.toList
  | .string s => StringLiteral.write s.toList
  | .array items =>
    if items.isEmpty then ['[', ']']
    else '[' :: (itemsSpelling sp (level + 1) items ++ (sp.line level ++ [']']))
  | .object entries =>
    if entries.isEmpty then ['\x7b', '\x7d']
    else '\x7b' :: (entriesSpelling sp (level + 1) entries ++ (sp.line level ++ ['\x7d']))

def itemsSpelling (sp : Spacing) (level : Nat) : List Value → List Char
  | [] => []
  | v :: rest =>
    sp.line level ++ (v.spelling sp level ++ (Layout.separator rest ++ itemsSpelling sp level rest))

def entriesSpelling (sp : Spacing) (level : Nat) : List (String × Value) → List Char
  | [] => []
  | (key, v) :: rest =>
    sp.line level ++ (StringLiteral.write key.toList ++ (':' :: (sp.behindColon ++
      (v.spelling sp level ++ (Layout.separator rest ++ entriesSpelling sp level rest)))))

end

def Value.compact (v : Value) : String := String.ofList (v.spelling .tight 0)

example : (Value.object [("a b", .array [.number "1.50", .null]), ("", .object [])]).compact =
    "\x7b\"a b\":[1.50,null],\"\":\x7b\x7d\x7d" := by decide

/-! ## The layout over lines -/

mutual

theorem value_eq_spelling (level : Nat) : (v : Value) → Layout.value level v = v.spelling .wide level
  | .null | .bool true | .bool false | .number _ | .string _ => by rw [Layout.value, Value.spelling]
  | .array items => by
    rw [Layout.value, Value.spelling, elements_eq_spelling, List.append_assoc]
    rfl
  | .object entries => by
    rw [Layout.value, Value.spelling, entries_eq_spelling, List.append_assoc]
    rfl

theorem elements_eq_spelling (level : Nat) : (items : List Value) →
    Layout.elements level items = itemsSpelling .wide level items
  | [] => by rw [Layout.elements, itemsSpelling]
  | v :: rest => by
    rw [Layout.elements, itemsSpelling, value_eq_spelling level v, elements_eq_spelling level rest]
    simp [Spacing.wide]

theorem entries_eq_spelling (level : Nat) : (entries : List (String × Value)) →
    Layout.entries level entries = entriesSpelling .wide level entries
  | [] => by rw [Layout.entries, entriesSpelling]
  | (key, v) :: rest => by
    rw [Layout.entries, entriesSpelling, value_eq_spelling level v, entries_eq_spelling level rest]
    simp [Spacing.wide]

end

theorem layout_eq_spelling (v : Value) : v.layout = String.ofList (v.spelling .wide 0) := by
  rw [Value.layout, value_eq_spelling]

/-! ## Where a spelling starts -/

/-- A spelling starts with a character that is neither white space nor closes an array, and
    with a quote only if the value is a string. -/
theorem spelling_head {v : Value} (h : v.numeralsOnly) (sp : Spacing) (level : Nat) :
    ∃ c r, v.spelling sp level = c :: r ∧ isSpace c = false ∧ c ≠ ']' ∧ (c = '"' → ∃ s, v = .string s) := by
  match v with
  | .string s => exact ⟨'"', _, by rw [Value.spelling]; rfl, by decide, by decide, fun _ => ⟨s, rfl⟩⟩
  | .null | .bool true | .bool false | .array [] | .object [] | .array (_ :: _) | .object (_ :: _) =>
    exact ⟨_, _, by rw [Value.spelling] <;> rfl, by decide, by decide, fun quote => absurd quote (by decide)⟩
  | .number literal =>
    obtain ⟨c, r, spelled, head⟩ := Numeral.isNumeral_head (decide_eq_true_eq.mp h)
    have other : ∀ d, d ≠ '-' → d.isDigit = false → c ≠ d := fun d => Numeral.head_ne head
    refine ⟨c, r, by rw [Value.spelling, spelled], ?_, other ']' (by decide) rfl, fun quote => ?_⟩
    · simp [isSpace, other ' ' (by decide) rfl, other '\n' (by decide) rfl, other '\t' (by decide) rfl,
        other '\r' (by decide) rfl]
    · exact absurd quote (other '"' (by decide) rfl)

end Decodables.Json
