/-
  Decodables.Proofs.Shadowing — when a struct takes a name that the generated code uses
  for something else.

  A struct is named after a key in Pascal case. A name that starts with an ASCII capital
  and does not end in a digit comes about in no other way: fallbacks and suffixes end in
  a digit, prefixes and camel case start otherwise. So unless it is reserved, such a name
  is taken just where a key derives it.

  Proved, over every object, limit and accepted name of the outermost declaration:
  - `nested_named_iff`, `node_named_iff`: a declaration bears such a name just if a key
    that an object stands under derives it, or the outermost one bears it.
  - `shadowed_iff`: of the names that the generated code refers to, only `Decodable` and
    `CodingKey` can be taken, and just if they are derived.
-/

import Decodables.Proofs.Casing
import Decodables.Proofs.Namespace

namespace Decodables

open Identifier (Style derive reservedTypeNames)
open Json (Value)
open Declaration (Node)

/-! ## Names that only a derivation gives -/

/-- The name starts with an ASCII capital and does not end in a digit. -/
structure Unmended (r : String) : Prop where
  capital : ∃ c ∈ r.toList.head?, c.isUpper
  undigited : ∀ c ∈ r.toList.getLast?, ¬ c.isDigit

theorem getLast?_append_toString (name : String) (n : Nat) :
    ∃ c ∈ (name ++ toString n).toList.getLast?, c.isDigit := by
  have nonempty : Nat.toDigits 10 n ≠ [] := List.ne_nil_of_length_pos Nat.length_toDigits_pos
  refine ⟨(Nat.toDigits 10 n).getLast nonempty, ?_, ?_⟩
  · rw [String.toList_append, Nat.toString_eq_repr, Nat.toList_repr, List.getLast?_append_of_ne_nil _ nonempty]
    exact List.getLast?_eq_some_getLast nonempty
  · exact Nat.isDigit_of_mem_toDigits (by decide) (by decide) (List.getLast_mem nonempty)

/-- An ASCII capital is no number. -/
theorem capital_not_numeric {c : Char} (h : c.isUpper) : Unicode.isNumeric c = false := by
  have table : ∀ n ≤ 0x5A, 0x41 ≤ n → Unicode.inRanges Unicode.numericRanges n = false := by decide
  obtain ⟨low, high⟩ := (Unicode.isUpper_iff c).mp h
  exact table _ high low

theorem derive_camel_head (key : String) : ∀ c ∈ (derive .camel key).toList.head?, c.isUpper = false := by
  intro c hc
  rw [derive, String.toList_ofList] at hc
  generalize (Identifier.raise (Identifier.strip key.toList)).filter Identifier.isNameChar = s at hc
  cases s with
  | nil => cases hc
  | cons first rest =>
    simp only [Identifier.recase, List.head?_append_of_ne_nil _ (Unicode.lowercase_ne_nil first)] at hc
    exact Unicode.lowercase_head first c hc

namespace Unmended

variable {r : String}

theorem ne_numbered (h : Unmended r) (name : String) (n : Nat) : name ++ toString n ≠ r := by
  rintro rfl
  obtain ⟨c, hc, digit⟩ := getLast?_append_toString name n
  exact h.undigited c hc digit

theorem ne_of_head (h : Unmended r) {name : String} (head : ∀ c ∈ name.toList.head?, c.isUpper = false) :
    name ≠ r := by
  rintro rfl
  obtain ⟨c, hc, capital⟩ := h.capital
  rw [head c hc] at capital
  cases capital

theorem ne_underscored (h : Unmended r) (name : String) : "_" ++ name ≠ r :=
  h.ne_of_head fun c hc => by
    rw [String.toList_append] at hc
    cases hc
    rfl

theorem ofKey_camel_ne (h : Unmended r) (key : String) (position : Nat) :
    (Wish.ofKey .camel key position).name ≠ r := by
  rw [Wish.ofKey_name]
  split
  · exact h.ne_numbered "field" position
  · split
    · exact h.ne_underscored _
    · exact h.ne_of_head (derive_camel_head key)

theorem ofKey_pascal (h : Unmended r) (key : String) (position : Nat) :
    (Wish.ofKey .pascal key position).name = r ↔ derive .pascal key = r := by
  rw [Wish.ofKey_name]
  split
  · rename_i unusable
    refine iff_of_false (h.ne_numbered "Field" position) ?_
    rcases unusable with he | he
    · rw [he]
      exact h.ne_of_head fun c hc => by cases hc
    · rw [he]
      exact h.ne_underscored ""
  · split
    · rename_i numeric
      refine iff_of_false (h.ne_underscored _) fun he => ?_
      obtain ⟨c, hc, capital⟩ := h.capital
      rw [← he] at hc
      rw [startsNumeric, Option.mem_def.mp hc, Option.any_some, capital_not_numeric capital] at numeric
      cases numeric
    · exact .rfl

/-- A scope gives such a name just to a wish for it, while it is free. -/
theorem choose_eq (h : Unmended r) (s : Scope) (wanted : String) :
    s.choose wanted = r ↔ wanted = r ∧ r ∉ s.taken := by
  rcases s.choose_eq_or wanted with ⟨free, he⟩ | ⟨taken, n, _, he, _⟩
  · rw [he]
    exact ⟨fun hr => ⟨hr, hr ▸ free⟩, fun hr => hr.1⟩
  · rw [he]
    exact iff_of_false (h.ne_numbered wanted n) fun hr => hr.2 (hr.1 ▸ taken)

end Unmended

/-! ## Keys that want a name -/

def Wanted (entries : List (String × Value)) (r : String) : Prop :=
  ∃ e ∈ entries, e.2.object?.isSome ∧ derive .pascal e.1 = r

theorem wanted_cons {e : String × Value} {rest : List (String × Value)} {r : String} :
    Wanted (e :: rest) r ↔ (e.2.object?.isSome ∧ derive .pascal e.1 = r) ∨ Wanted rest r := by
  simp [Wanted]

/-- Such a name is taken in the end, by the scope at the start or by a nested declaration,
    just if the scope held it or a key wants it. -/
theorem sampleMembers_named_iff {limit : Nat} {path : Path} {r : String} (h : Unmended r)
    {entries : List (String × Value)} :
    ∀ {scope : Scope} {position : Nat} {members : List Member},
      (sampleMembers limit scope position path entries).outcome = .ok members →
        ((r ∈ scope.taken ∨ r ∈ (members.filterMap (·.type.declaration?)).map (·.name)) ↔
          (r ∈ scope.taken ∨ Wanted entries r)) := by
  induction entries with
  | nil => intro scope position members hm; cases hm; simp [Wanted]
  | cons e rest ih =>
    intro scope position members hm
    obtain ⟨identifier, type, others, after, rfl, typed, ho, rfl⟩ := sampleMembers_cons_ok hm
    have free : scope.choose (Wish.ofKey .camel e.1 position).name ≠ r := fun he =>
      h.ofKey_camel_ne e.1 position ((h.choose_eq scope _).mp he).1
    have others_iff := ih ho
    rw [wanted_cons]
    cases typed with
    | plain hv ht =>
      simp only [Scope.taken_take, List.mem_cons, free.symm, false_or] at others_iff
      simp only [List.filterMap_cons, ht, hv, Option.isSome_none, Bool.false_eq_true, false_and, false_or]
      exact others_iff
    | declared hv ht hn _ =>
      have named : Naming.typeName ⟨scope.take (scope.choose (Wish.ofKey .camel e.1 position).name), e.1, position⟩ = r ↔
          derive .pascal e.1 = r ∧ r ∉ scope.taken := by
        rw [Naming.typeName, h.choose_eq, h.ofKey_pascal, Scope.taken_take, List.mem_cons, not_or]
        exact and_congr_right fun _ => and_iff_right free.symm
      simp only [Naming.withType, Scope.taken_take, List.mem_cons, free.symm, false_or, eq_comm (a := r),
        named] at others_iff
      simp only [List.filterMap_cons, ht, List.map_cons, List.mem_cons, hn, eq_comm (a := r), named, hv,
        Option.isSome_some, true_and]
      by_cases held : r ∈ scope.taken
      · simp only [held, true_or]
      · simpa only [held, not_false_eq_true, and_true, false_or, or_false] using others_iff

/-! ## Declarations that bear a name -/

variable {limit : Nat} {top : List (String × Value)} {root : Declaration} {r : String}

theorem nested_named_iff {entries : List (String × Value)} {d : Declaration} (h : Unmended r)
    (free : r ∉ reservedTypeNames) (hs : Sampled limit entries d) :
    (∃ e ∈ d.nested, e.name = r) ↔ Wanted entries r := by
  obtain ⟨path, hm⟩ := hs
  have named := sampleMembers_named_iff h hm
  simp only [Scope.initial, free, false_or] at named
  rw [← named, List.mem_map]
  exact .rfl

/-- A declaration of the tree bears such a name just if the outermost one does, or a key of
    a visited object wants it. -/
theorem node_named_iff (h : Unmended r) (free : r ∉ reservedTypeNames) (hs : Sampled limit top root) :
    (∃ around d, Node root around d ∧ d.name = r) ↔
      (root.name = r ∨ ∃ entries, Visited top entries ∧ Wanted entries r) := by
  constructor
  · rintro ⟨around, d, node, hn⟩
    cases node with
    | root => exact .inl hn
    | nested outer hd =>
      obtain ⟨entries, visited, hs'⟩ := node_sampled hs outer
      exact .inr ⟨entries, visited, (nested_named_iff h free hs').mp ⟨d, hd, hn⟩⟩
  · rintro (hn | ⟨entries, visited, wanted⟩)
    · exact ⟨[], root, .root, hn⟩
    · obtain ⟨around, outer, node, hs'⟩ := visited_sampled hs visited
      obtain ⟨d, hd, hn⟩ := (nested_named_iff h free hs').mpr wanted
      exact ⟨outer :: around, d, .nested node hd, hn⟩

/-- No declaration bears a reserved name, if the outermost one does not. -/
theorem node_unreserved (hs : Sampled limit top root) (free : root.name ∉ reservedTypeNames)
    {around : List Declaration} {d : Declaration} (node : Node root around d) : d.name ∉ reservedTypeNames := by
  cases node with
  | root => exact free
  | nested outer hd => exact (sampled_distinct hs _ _ outer).unreserved _ (Declaration.name_mem_names hd)

/-! ## Names that the generated code refers to -/

/-- The names that the code of a struct refers to besides its nested structs: what structs
    and tables of keys conform to, the table, and the types of members. -/
def referencedNames : List String :=
  ["Decodable", "CodingKey", "CodingKeys", "String", "Int", "Float", "Bool", "Any"]

theorem rootName_eq {asked name : String} (h : Command.rootName asked = .ok name) : derive .pascal asked = name := by
  obtain ⟨_, _, _, rfl⟩ := Command.rootName_ok_iff.mp h
  rfl

/-- A struct takes a name that the generated code refers to just if the name is one of the
    two that are not reserved, and the name asked for derives it, or a key does that stands
    over an object which is visited. -/
theorem shadowed_iff {asked name : String} {entries : List (String × Value)}
    (accepted : Command.rootName asked = .ok name)
    (sampled : (Declaration.ofSample limit name entries).outcome = .ok root) (referenced : r ∈ referencedNames) :
    (∃ around d, Node root around d ∧ d.name = r) ↔
      (r = "Decodable" ∨ r = "CodingKey") ∧
        (derive .pascal asked = r ∨
          ∃ inner, Visited entries inner ∧ ∃ e ∈ inner, e.2.object?.isSome ∧ derive .pascal e.1 = r) := by
  obtain ⟨rfl, hs⟩ := ofSample_ok sampled
  by_cases open_ : r = "Decodable" ∨ r = "CodingKey"
  · have unmended : Unmended r := by
      rcases open_ with rfl | rfl <;> exact ⟨⟨_, rfl, by decide⟩, fun c hc => by cases hc; decide⟩
    have free : r ∉ reservedTypeNames := by rcases open_ with rfl | rfl <;> decide
    rw [node_named_iff unmended free hs, rootName_eq accepted, and_iff_right open_]
    exact .rfl
  · have table : ∀ n ∈ referencedNames, (n = "Decodable" ∨ n = "CodingKey") ∨ n ∈ reservedTypeNames := by decide
    have reserved := (table r referenced).resolve_left open_
    refine iff_of_false ?_ fun h => open_ h.1
    rintro ⟨around, d, node, rfl⟩
    exact node_unreserved hs (rootName_unreserved accepted) node reserved

def protocolKeyed : List (String × Value) := [("decodable", .object [("a b", .number "1")])]

def protocolKeyedRoot : Declaration :=
  ⟨"JsonDecodable", [⟨"decodable", "decodable", .declared "Decodable" [⟨"a b", "aB", .int⟩]⟩]⟩

/-- A nested struct shadows the protocol that it is declared to conform to. -/
theorem protocol_shadowed :
    Command.rootName "JsonDecodable" = .ok "JsonDecodable" ∧
      (Declaration.ofSample 128 "JsonDecodable" protocolKeyed).outcome = .ok protocolKeyedRoot ∧
      ∃ around d, Node protocolKeyedRoot around d ∧ d.name = "Decodable" :=
  ⟨by rfl, by rfl, [protocolKeyedRoot], _, .nested .root (List.mem_cons_self ..), rfl⟩

theorem protocol_shadowed_iff :
    Command.rootName "JsonDecodable" = .ok "JsonDecodable" ∧
      (Declaration.ofSample 128 "JsonDecodable" protocolKeyed).outcome = .ok protocolKeyedRoot ∧
      "Decodable" ∈ referencedNames ∧ "String" ∈ referencedNames ∧
      (∃ inner, Visited protocolKeyed inner ∧ ∃ e ∈ inner, e.2.object?.isSome ∧ derive .pascal e.1 = "Decodable") ∧
      (∃ around d, Node protocolKeyedRoot around d ∧ d.name = "Decodable") ∧
      ¬∃ around d, Node protocolKeyedRoot around d ∧ d.name = "String" := by
  have accepted : Command.rootName "JsonDecodable" = .ok "JsonDecodable" := by rfl
  have sampled : (Declaration.ofSample 128 "JsonDecodable" protocolKeyed).outcome = .ok protocolKeyedRoot := by rfl
  have protocol : "Decodable" ∈ referencedNames := by decide
  have text : "String" ∈ referencedNames := by decide
  have derived : ∃ inner, Visited protocolKeyed inner ∧
      ∃ e ∈ inner, e.2.object?.isSome ∧ derive .pascal e.1 = "Decodable" :=
    ⟨protocolKeyed, .top, _, List.mem_cons_self .., rfl, by rfl⟩
  refine ⟨accepted, sampled, protocol, text, derived, ?_, ?_⟩
  · exact (shadowed_iff accepted sampled protocol).mpr ⟨.inl rfl, .inr derived⟩
  · intro shadowed
    exact absurd ((shadowed_iff accepted sampled text).mp shadowed).1 (by decide)

end Decodables
