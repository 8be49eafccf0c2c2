/-
  Decodables.Proofs.GivenNames — how the names are spelled that scopes give.

  A name that is given is a fallback, a derived name or one behind an underscore, or one of
  these with a number behind it. So whatever the key, it holds no delimiter and no line feed,
  and the name of a struct starts with an uppercase form, an underscore or the head of a
  fallback. No keyword starts so but two, and these two are reserved.

  Proved, over every scope, and over all nodes of samples:
  - `Given.holds`, `given_chars`: what all names that scopes give have, and all their characters.
  - `given_unbroken`, `given_head`: so how such a name is spelled, and how it starts.
  - `not_keyword`: so a struct is named like no keyword.
  - `node_name`, `node_unbroken`, `node_not_keyword`: the names at the nodes of a sample.
-/

import Decodables.Proofs.Casing
import Decodables.Proofs.Shadowing
import Decodables.Proofs.Swift.Introduction
import Decodables.Proofs.UsableNames

namespace Decodables

open Identifier (Style derive form isLeading isNameChar keywords reservedTypeNames Kept kept_iff strayLetters)
open Json (Value)
open Declaration (Node)
open Swift

/-! ## Names that scopes give -/

/-- The name is what some scope gives for some key. -/
def Given (style : Style) (name : String) : Prop :=
  ∃ (s : Scope) (key : String) (position : Nat), name = s.choose (Wish.ofKey style key position).name

/-- A name that is wished for is a fallback, a derived name or one behind an underscore. -/
theorem Wish.holds {P : String → Prop} {style : Style} (fallback : ∀ position, P (fallbackName style position))
    (underscored : ∀ key, P ("_" ++ derive style key)) (derived : ∀ key, P (derive style key)) (key : String)
    (position : Nat) : P (Wish.ofKey style key position).name := by
  rw [Wish.ofKey_name]
  split
  · exact fallback position
  · split
    · exact underscored key
    · exact derived key

/-- A name that is given is one of these, or one of these with a number behind it. -/
theorem Given.holds {P : String → Prop} {style : Style} {name : String} (h : Given style name)
    (fallback : ∀ position, P (fallbackName style position)) (underscored : ∀ key, P ("_" ++ derive style key))
    (derived : ∀ key, P (derive style key)) (numbered : ∀ wanted (n : Nat), P wanted → P (wanted ++ toString n)) :
    P name := by
  obtain ⟨s, key, position, rfl⟩ := h
  have wanted : P (Wish.ofKey style key position).name := Wish.holds fallback underscored derived key position
  rcases s.choose_eq_or (Wish.ofKey style key position).name with ⟨_, he⟩ | ⟨_, n, _, he, _⟩
  · rw [he]
    exact wanted
  · rw [he]
    exact numbered _ n wanted

/-! ## The characters of names -/

section Characters

variable {P : Char → Prop} (spelling : ∀ c, isNameChar c → P c) (strays : ∀ c ∈ strayLetters, ∀ x ∈ form .pascal c, P x)
include spelling strays

/-- The forms of a leading character are spelled with name characters, but for the capitals of
    the stray letters. -/
theorem form_chars {c : Char} (leading : isLeading c) (style : Style) : ∀ x ∈ form style c, P x := by
  by_cases stray : style = .pascal ∧ c ∈ strayLetters
  · obtain ⟨rfl, stray⟩ := stray
    exact strays c stray
  · have kept : Kept style c := (kept_iff (Identifier.isNameChar_of_isLeading leading)).mpr stray
    exact fun x hx => spelling x (kept.spelled x hx)

theorem derived_chars (style : Style) (key : String) : ∀ x ∈ (derive style key).toList, P x := by
  intro x hx
  rcases Identifier.derive_chars x hx with named | ⟨c, _, leading, formed⟩
  · exact spelling x named
  · exact form_chars spelling strays leading style x formed

theorem underscored_chars (style : Style) (key : String) : ∀ x ∈ ("_" ++ derive style key).toList, P x := by
  rw [String.toList_append, List.forall_mem_append]
  exact ⟨fun x hx => spelling x (List.all_eq_true.mp (by decide : "_".toList.all isNameChar) x hx),
    derived_chars spelling strays style key⟩

theorem wished_chars (style : Style) (key : String) (position : Nat) :
    ∀ x ∈ (Wish.ofKey style key position).name.toList, P x :=
  Wish.holds (P := fun name => ∀ x ∈ name.toList, P x)
    (fun position x hx => spelling x ((Identifier.fallbackName_usable style position).spelled x hx))
    (underscored_chars spelling strays style) (derived_chars spelling strays style) key position

/-- What holds of all name characters, and of the capitals of the stray letters, holds of all
    characters of a name that is given. -/
theorem given_chars {style : Style} {name : String} (h : Given style name) : ∀ x ∈ name.toList, P x := by
  refine h.holds (P := fun name => ∀ x ∈ name.toList, P x)
    (fun position x hx => spelling x ((Identifier.fallbackName_usable style position).spelled x hx))
    (underscored_chars spelling strays style) (derived_chars spelling strays style) fun wanted n held => ?_
  rw [String.toList_append, List.forall_mem_append]
  exact ⟨held, fun x hx => spelling x (Identifier.toString_named n x hx)⟩

end Characters

/-! ## Names without delimiters -/

theorem not_delimiter {c : Char} (named : isNameChar c) : c ∉ delimiters := by
  have apart : delimiters.all fun d => !isNameChar d := by decide
  intro delimits
  have unnamed := List.all_eq_true.mp apart c delimits
  rw [named] at unnamed
  cases unnamed

/-- The capitals of the stray letters are no name characters, but no delimiters either. -/
theorem stray_not_delimiter : ∀ c ∈ strayLetters, ∀ x ∈ form .pascal c, x ∉ delimiters := by
  have strays : strayLetters.all fun c => (form .pascal c).all goesOn := by decide +kernel
  intro c stray x hx
  exact (goesOn_iff x).mp (List.all_eq_true.mp (List.all_eq_true.mp strays c stray) x hx)

theorem derive_unbroken (style : Style) (key : String) : Unbroken (derive style key) :=
  derived_chars (fun _ => not_delimiter) stray_not_delimiter style key

theorem given_unbroken {style : Style} {name : String} (h : Given style name) : Unbroken name :=
  given_chars (fun _ => not_delimiter) stray_not_delimiter h

/-! ## Names of structs -/

def Unlowered (name : String) : Prop := ∀ c ∈ name.toList.head?, c.isLower = false

instance : DecidablePred Unlowered := fun name =>
  decidable_of_iff (name.toList.head?.all fun c => !c.isLower) (by
    unfold Unlowered
    cases name.toList.head? <;> simp)

theorem derive_pascal_head (key : String) : Unlowered (derive .pascal key) := by
  intro x hx
  obtain ⟨c, _, _, formed⟩ := Identifier.derive_head x hx
  exact Unicode.uppercase_head c x formed

theorem unlowered_append {a b : String} (ha : Unlowered a) (hb : Unlowered b) : Unlowered (a ++ b) := by
  intro c hc
  rw [String.toList_append, List.head?_append, Option.mem_def] at hc
  rcases Option.or_eq_some_iff.mp hc with first | ⟨_, first⟩
  · exact ha c first
  · exact hb c first

theorem toString_head (n : Nat) : Unlowered (toString n) := by
  intro c hc
  have digits : (toString n).toList = Nat.toDigits 10 n := by rw [Nat.toString_eq_repr, Nat.toList_repr]
  rw [digits] at hc
  exact Unicode.isLower_of_isDigit (Nat.isDigit_of_mem_toDigits (by decide) (by decide) (List.mem_of_mem_head? hc))

theorem given_head {name : String} (h : Given .pascal name) : Unlowered name := by
  refine h.holds (fun position => ?_) (fun key => ?_) derive_pascal_head fun wanted n unlowered => ?_
  · exact unlowered_append (by decide) (toString_head position)
  · exact unlowered_append (by decide) (derive_pascal_head key)
  · exact unlowered_append unlowered (toString_head n)

/-- The keywords that start otherwise are reserved. -/
theorem not_keyword {name : String} (head : Unlowered name) (free : name ∉ reservedTypeNames) : name ∉ keywords := by
  have lowered : ∀ k ∈ keywords, k ∈ reservedTypeNames ∨ k.toList.head?.any Char.isLower := by decide
  intro keyword
  rcases lowered name keyword with reserved | lower
  · exact free reserved
  · cases first : name.toList.head? with
    | none =>
      rw [first] at lower
      cases lower
    | some c =>
      rw [first, Option.any_some, head c first] at lower
      cases lower

/-! ## Names at the nodes -/

structure Declaration.Named (d : Declaration) : Prop where
  members : ∀ m ∈ d.members, Given .camel m.identifier
  nested : ∀ e ∈ d.nested, Given .pascal e.name

theorem sampleMembers_given {limit : Nat} {path : Path} {entries : List (String × Value)} :
    ∀ {scope : Scope} {position : Nat} {members : List Member},
      (sampleMembers limit scope position path entries).outcome = .ok members →
        ∀ m ∈ members, Given .camel m.identifier ∧ ∀ e, m.type.declaration? = some e → Given .pascal e.name := by
  induction entries with
  | nil => intro scope position members h; cases h; intro m hm; cases hm
  | cons entry rest ih =>
    intro scope position members h
    obtain ⟨identifier, type, others, after, given, typed, ho, rfl⟩ := sampleMembers_cons_ok h
    intro m hm
    rcases List.mem_cons.mp hm with rfl | hm
    · refine ⟨⟨scope, entry.1, position, given⟩, fun e he => ?_⟩
      cases typed with
      | plain _ none_brought =>
        have nothing : some e = none := he.symm.trans none_brought
        cases nothing
      | @declared _ d _ brought named _ =>
        have same : some e = some d := he.symm.trans brought
        cases same
        exact ⟨_, entry.1, position, named⟩
    · exact ih ho m hm

theorem Sampled.named {limit : Nat} {entries : List (String × Value)} {d : Declaration} (h : Sampled limit entries d) :
    d.Named := by
  obtain ⟨path, h⟩ := h
  have given := sampleMembers_given h
  refine ⟨fun m hm => (given m hm).1, fun e he => ?_⟩
  obtain ⟨m, hm, brought⟩ := List.mem_filterMap.mp he
  exact (given m hm).2 e brought

section Nodes

variable {limit : Nat} {asked : String} {entries : List (String × Value)} {root d : Declaration}
  {around : List Declaration}

/-- A node has the name that is derived from the one asked for, or one that a scope gives. -/
theorem node_name (accepted : Command.rootName asked = .ok root.name) (sampled : Sampled limit entries root)
    (node : Node root around d) : d.name = derive .pascal asked ∨ Given .pascal d.name := by
  cases node with
  | root => exact .inl (rootName_eq accepted).symm
  | nested outer hd =>
    obtain ⟨_, _, here⟩ := node_sampled sampled outer
    exact .inr (here.named.nested d hd)

theorem node_unbroken (accepted : Command.rootName asked = .ok root.name) (sampled : Sampled limit entries root)
    (node : Node root around d) : d.Unbroken := by
  obtain ⟨_, _, here⟩ := node_sampled sampled node
  refine ⟨?_, fun m hm => given_unbroken (here.named.members m hm)⟩
  rcases node_name accepted sampled node with derived | given
  · rw [derived]
    exact derive_unbroken .pascal asked
  · exact given_unbroken given

/-- No struct is named like a keyword. -/
theorem node_not_keyword (accepted : Command.rootName asked = .ok root.name) (sampled : Sampled limit entries root)
    (node : Node root around d) : d.name ∉ keywords := by
  refine not_keyword ?_ (node_unreserved sampled (rootName_unreserved accepted) node)
  rcases node_name accepted sampled node with derived | given
  · rw [derived]
    exact derive_pascal_head asked
  · exact given_head given

end Nodes

end Decodables
