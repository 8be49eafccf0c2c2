/-
  Decodables.Proofs.Keywords — keywords among the names that source text introduces.

  A member or a case may be named like a keyword, and stands between back-quotes then. A
  struct stands bare, and so does a type that refers to it; none of them is named like a
  keyword.

  Proved, over all documents and all settings that arguments have:
  - `introductions_safe`: what a declaration introduces is quoted just where it has to be.
  - `keywords_quoted`: what is read off the text of a conversion stands between back-quotes
    just if it is the name of a member or a case, and a keyword; and what a member's type
    refers to is a built-in type, or a struct of the text and no keyword.
-/

import Decodables.Proofs.GivenNames

namespace Decodables

open Identifier (keywords)
open Json (Value)
open Declaration (Node)
open Swift

/-! ## Names in the text -/

def builtInTypes : List String := ["String", "Int", "Float", "Bool", "Any"]

theorem MemberType.reference_builtIn {t : MemberType} (h : t.declaration? = none) : t.reference ∈ builtInTypes := by
  match t with
  | .array element => exact element.reference_builtIn h
  | .string | .int | .float | .boolean | .optionalAny | .unknown => decide

/-- The name stands between back-quotes just if it is the name of a member or of a case, and
    a keyword. So it is no keyword if it stands bare. -/
structure Safe (i : Introduction) : Prop where
  quoted : i.name.quoted ↔ i.role ≠ .struct ∧ i.name.letters ∈ keywords
  bare : i.name.quoted = false → i.name.letters ∉ keywords

theorem safe_ofIdentifier {i : Introduction} {identifier : String} (role : i.role ≠ .struct)
    (name : i.name = .ofIdentifier identifier) : Safe i := by
  have quoted : i.name.quoted ↔ i.name.letters ∈ keywords := by
    rw [name, Name.ofIdentifier, List.contains_iff_mem]
  refine ⟨by simp [role, quoted], fun bare keyword => ?_⟩
  rw [quoted.mpr keyword] at bare
  cases bare

theorem introductions_safe {d : Declaration} (named : d.name ∉ keywords) : ∀ i ∈ d.introductions, Safe i := by
  intro i hi
  rcases Declaration.mem_introductions.mp hi with rfl | ⟨m, _, rfl⟩ | ⟨_, m, _, rfl⟩
  · exact ⟨by simp [Declaration.introduction], fun _ => named⟩
  · exact safe_ofIdentifier (by simp [Introduction.ofMember]) rfl
  · exact safe_ofIdentifier (by simp [Introduction.ofCase]) rfl

/-- What a declaration introduces as a member is one of its members. -/
theorem introductions_member {d : Declaration} {i : Introduction} (hi : i ∈ d.introductions) (role : i.role = .member) :
    ∃ m ∈ d.members, i = .ofMember m := by
  rcases Declaration.mem_introductions.mp hi with rfl | member | ⟨_, m, _, rfl⟩
  · cases role
  · exact member
  · cases role

/-- Under the settings that arguments have, a document that is converted is an object, and
    the text introduces what the nodes of its sample do. Each of the names stands between
    back-quotes just if it is the name of a member or a case, and a keyword. The type of a
    member refers to a built-in type, or to a struct that the text introduces; then it is no
    keyword. -/
theorem keywords_quoted {arguments : Command.Arguments} {settings : Settings} {document : Value} {c : Conversion}
    (accepted : arguments.settings = .ok settings) (converted : Conversion.ofDocument settings document = .ok c) :
    (∃ entries root, document = .object entries ∧
      (Declaration.ofSample settings.maxDepth settings.rootName entries).outcome = .ok root ∧
      ∀ i, i ∈ Introduction.ofText c.source ↔ ∃ around d, Node root around d ∧ i ∈ d.introductions) ∧
    (∀ i ∈ Introduction.ofText c.source, Safe i) ∧
    ∀ i ∈ Introduction.ofText c.source, i.role = .member →
      i.refersTo ∈ builtInTypes ∨
        (i.refersTo ∉ keywords ∧ ∃ j ∈ Introduction.ofText c.source, j.role = .struct ∧ j.name = ⟨i.refersTo, false⟩) := by
  obtain ⟨_, accepted⟩ := Command.Arguments.settings_ok.mp accepted
  obtain ⟨entries, root, rfl, sampled, rfl⟩ := Conversion.ofDocument_ok_iff.mp converted
  obtain ⟨named, hs⟩ := ofSample_ok sampled
  rw [← named] at accepted
  have unbroken : root.AtEveryNode Declaration.Unbroken := fun _ _ node => node_unbroken accepted hs node
  -- what the text introduces is looked at in the tree, node by node
  have read := fun i => mem_ofText_source unbroken 0 i
  refine ⟨⟨entries, root, rfl, sampled, read⟩, fun i hi => ?_, fun i hi role => ?_⟩
  · obtain ⟨around, d, node, hd⟩ := (read i).mp hi
    exact introductions_safe (node_not_keyword accepted hs node) i hd
  · obtain ⟨around, d, node, hd⟩ := (read i).mp hi
    obtain ⟨m, hm, rfl⟩ := introductions_member hd role
    have below : ∀ e ∈ d.nested, Node root (d :: around) e := fun e he => .nested node he
    have plain := Declaration.reference_unbroken (fun e he => (unbroken _ e (below e he)).name) hm
    rw [refersTo_ofMember plain]
    cases brought : m.type.declaration? with
    | none => exact .inl (MemberType.reference_builtIn brought)
    | some e =>
      have he : e ∈ d.nested := List.mem_filterMap.mpr ⟨m, hm, brought⟩
      have introduced := (read e.introduction).mpr ⟨_, e, below e he, Declaration.mem_introductions.mpr (.inl rfl)⟩
      rw [MemberType.reference_of_declaration? brought]
      exact .inr ⟨node_not_keyword accepted hs (below e he), e.introduction, introduced, rfl, rfl⟩

def wordy : List (String × Value) :=
  [("class", .object [("Any", .null)]), ("Self", .array [.object []])]

def wordyRoot : Declaration :=
  ⟨"While",
    [⟨"class", "class", .declared "Class" [⟨"Any", "any", .optionalAny⟩]⟩,
     ⟨"Self", "self", .array (.declared "Self2" [])⟩]⟩

/-- The members are quoted and the structs are not, in the table of keys as well. -/
theorem wordy_quoted :
    ∃ c, Command.Arguments.settings ⟨none, none, some "while", none, false⟩ = .ok ⟨"While", 128⟩ ∧
      Conversion.ofDocument ⟨"While", 128⟩ (.object wordy) = .ok c ∧
      ⟨.struct, ⟨"While", false⟩, ": Decodable \x7b"⟩ ∈ Introduction.ofText c.source ∧
      ⟨.member, ⟨"class", true⟩, ": Class"⟩ ∈ Introduction.ofText c.source ∧
      ⟨.case, ⟨"self", true⟩, " = \"Self\""⟩ ∈ Introduction.ofText c.source ∧
      ⟨.struct, ⟨"Self2", false⟩, ": Decodable \x7b\x7d"⟩ ∈ Introduction.ofText c.source ∧
      ∀ i ∈ Introduction.ofText c.source, Safe i := by
  have accepted : Command.Arguments.settings ⟨none, none, some "while", none, false⟩ = .ok ⟨"While", 128⟩ := by rfl
  have sampled : (Declaration.ofSample 128 "While" wordy).outcome = .ok wordyRoot := by rfl
  have converted : Conversion.ofDocument ⟨"While", 128⟩ (.object wordy) =
      .ok ⟨wordyRoot.source 0 ++ "\n", (Declaration.ofSample 128 "While" wordy).warnings⟩ :=
    Conversion.ofDocument_ok_iff.mpr ⟨wordy, wordyRoot, rfl, sampled, rfl⟩
  obtain ⟨⟨_, root, object, sampled', read⟩, safe, -⟩ := keywords_quoted accepted converted
  obtain rfl := Value.object.inj object
  obtain rfl := Except.ok.inj (sampled.symm.trans sampled')
  have nested : ⟨"Self2", []⟩ ∈ wordyRoot.nested := by simp [wordyRoot, Declaration.nested, MemberType.declaration?]
  refine ⟨_, accepted, converted, (read _).mpr ⟨_, _, .root, ?_⟩, (read _).mpr ⟨_, _, .root, ?_⟩,
    (read _).mpr ⟨_, _, .root, ?_⟩, (read _).mpr ⟨_, _, .nested .root nested, ?_⟩, safe⟩ <;> decide +kernel

end Decodables
