/-
  Decodables.Proofs.Swift.Introduction — the names that source text introduces.

  A name is introduced behind `struct`, `let` or `case` at the head of a line. It goes up to
  the second of two back-quotes if the first stands in front of it, and up to the next
  delimiter else; what it is spelled with does not matter otherwise. A reader that goes by
  lines finds all of them, because no key gets a line feed into the text.

  Proved, of every declaration whose names hold no delimiter, at every level:
  - `read_declared`, `read_bare`: a name is read as it was written.
  - `refersTo_ofMember`: what stands behind a member's name tells what its type refers to.
  - `mem_ofText_source`: the text introduces just the names of the nodes of the tree.
-/

import Decodables.Proofs.Swift.Block

namespace Decodables

open Identifier (declared keywords)

namespace Swift

/-! ## Names up to a delimiter -/

def delimiters : List Char := [' ', ':', '`', '[', ']', '?', '\n']

def Unbroken (name : String) : Prop := ∀ c ∈ name.toList, c ∉ delimiters

def goesOn (c : Char) : Bool := !delimiters.contains c

theorem goesOn_iff (c : Char) : goesOn c ↔ c ∉ delimiters := by simp [goesOn]

instance : DecidablePred Unbroken := fun name =>
  decidable_of_iff (name.toList.all goesOn) (by simp [Unbroken, goesOn])

/-- What follows a name starts with a delimiter that is no back-quote, if there is any. -/
def Delimited (rest : List Char) : Prop := ∀ c ∈ rest.head?, c ∈ delimiters ∧ c ≠ '`'

theorem delimited_nil : Delimited [] := by
  intro c hc
  cases hc

theorem delimited_cons {c : Char} (h : c ∈ delimiters ∧ c ≠ '`') (rest : List Char) : Delimited (c :: rest) := by
  intro d hd
  cases hd
  exact h

namespace Name

def read : List Char → Name × List Char
  | '`' :: rest => (⟨String.ofList (rest.takeWhile (· != '`')), true⟩, (rest.dropWhile (· != '`')).drop 1)
  | s => (⟨String.ofList (s.takeWhile goesOn), false⟩, s.dropWhile goesOn)

theorem read_quoted {name : String} (h : Unbroken name) (rest : List Char) :
    read ('`' :: (name.toList ++ '`' :: rest)) = (⟨name, true⟩, rest) := by
  have inside : ∀ c ∈ name.toList, (c != '`') = true := by
    intro c hc
    rw [bne_iff_ne]
    rintro rfl
    exact h _ hc (by decide)
  simp [read, List.takeWhile_append_of_pos inside, List.dropWhile_append_of_pos inside]

theorem read_bare {name : String} (h : Unbroken name) {rest : List Char} (ends : Delimited rest) :
    read (name.toList ++ rest) = (⟨name, false⟩, rest) := by
  have inside : ∀ c ∈ name.toList, goesOn c = true := fun c hc => (goesOn_iff c).mpr (h c hc)
  have stops : rest.takeWhile goesOn = [] ∧ rest.dropWhile goesOn = rest := by
    cases rest with
    | nil => exact ⟨rfl, rfl⟩
    | cons c rest =>
      have stop : ¬ goesOn c := fun on => (goesOn_iff c).mp on (ends c rfl).1
      simp [stop]
  have unquoted : ∀ t, name.toList ++ rest ≠ '`' :: t := by
    intro t quoted
    cases spelling : name.toList with
    | nil =>
      rw [spelling, List.nil_append] at quoted
      exact (ends '`' (by rw [quoted]; rfl)).2 rfl
    | cons c more =>
      rw [spelling, List.cons_append, List.cons.injEq] at quoted
      exact h c (by rw [spelling]; exact List.mem_cons_self ..) (by rw [quoted.1]; decide)
  rw [read.eq_2 _ unquoted, List.takeWhile_append_of_pos inside, List.dropWhile_append_of_pos inside, stops.1, stops.2,
    List.append_nil, String.ofList_toList]

/-- An identifier is read as it was declared. -/
theorem read_declared {identifier : String} (h : Unbroken identifier) {rest : List Char} (ends : Delimited rest) :
    read ((declared identifier).toList ++ rest) = (ofIdentifier identifier, rest) := by
  unfold declared ofIdentifier
  by_cases keyword : keywords.contains identifier = true
  · have spelled : ("`" ++ identifier ++ "`").toList ++ rest = '`' :: (identifier.toList ++ '`' :: rest) := by simp
    rw [if_pos keyword, keyword, spelled, read_quoted h]
  · rw [if_neg keyword, Bool.eq_false_iff.mpr keyword, read_bare h ends]

end Name

/-! ## Introductions -/

inductive Role where
  | struct
  | member
  | case
  deriving DecidableEq, Repr

def Role.word : Role → String
  | .struct => "struct "
  | .member => "let "
  | .case => "case "

structure Introduction where
  role : Role
  name : Name
  /-- The line behind the name. -/
  behind : String
  deriving DecidableEq, Repr

namespace Introduction

/-- The name that the type of a member refers to: what is behind the member's name, without
    the delimiters. -/
def refersTo (i : Introduction) : String := String.ofList (i.behind.toList.filter goesOn)

def ofMember (m : Member) : Introduction := ⟨.member, .ofIdentifier m.identifier, ": " ++ m.type.source⟩

def ofCase (m : Member) : Introduction :=
  ⟨.case, .ofIdentifier m.identifier, if m.matchesKey then "" else " = " ++ StringLiteral.write m.key⟩

def ofLine? (line : List Char) : Option Introduction :=
  [Role.struct, .member, .case].findSome? fun role =>
    (role.word.toList.isPrefixOf? (line.dropWhile (· == ' '))).map fun rest =>
      ⟨role, (Name.read rest).1, String.ofList (Name.read rest).2⟩

def ofText (text : String) : List Introduction := (text.toList.splitOn '\n').filterMap ofLine?

/-- The indentation does not matter. -/
theorem ofLine?_render (level : Nat) (content : String) :
    ofLine? (Line.text level content).render = ofLine? content.toList := by
  have spaces : ∀ c ∈ List.replicate (4 * level) ' ', (c == ' ') = true := by
    intro c hc
    rw [(List.mem_replicate.mp hc).2]
    rfl
  rw [Line.render, ofLine?, ofLine?, List.dropWhile_append_of_pos spaces]

theorem ofLine?_word (role : Role) (rest : List Char) :
    ofLine? (role.word.toList ++ rest) = some ⟨role, (Name.read rest).1, String.ofList (Name.read rest).2⟩ := by
  cases role <;> rfl

theorem ofLine?_struct (level : Nat) {name tail : String} (h : Unbroken name) (ends : Delimited tail.toList) :
    ofLine? (Line.text level ("struct " ++ name ++ tail)).render = some ⟨.struct, ⟨name, false⟩, tail⟩ := by
  rw [ofLine?_render, String.toList_append, String.toList_append, List.append_assoc]
  show ofLine? (Role.struct.word.toList ++ _) = _
  rw [ofLine?_word, Name.read_bare h ends, String.ofList_toList]

theorem ofLine?_member (level : Nat) {m : Member} (h : Unbroken m.identifier) :
    ofLine? (memberLine level m).render = some (ofMember m) := by
  have ends : Delimited (": " ++ m.type.source).toList := by
    rw [String.toList_append]
    exact delimited_cons (by decide) _
  rw [memberLine, ofLine?_render, String.append_assoc, String.toList_append, String.toList_append, List.append_assoc]
  show ofLine? (Role.member.word.toList ++ _) = _
  rw [ofLine?_word, Name.read_declared h ends, String.ofList_toList, ofMember]

theorem ofLine?_case (level : Nat) {m : Member} (h : Unbroken m.identifier) :
    ofLine? (caseLine level m).render = some (ofCase m) := by
  rw [caseLine, ofLine?_render, ofCase]
  by_cases same : m.matchesKey = true
  · rw [if_pos same, if_pos same, String.toList_append, ← List.append_nil (declared m.identifier).toList]
    show ofLine? (Role.case.word.toList ++ _) = _
    rw [ofLine?_word, Name.read_declared h delimited_nil]
  · have ends : Delimited (" = " ++ StringLiteral.write m.key).toList := by
      rw [String.toList_append]
      exact delimited_cons (by decide) _
    rw [if_neg same, if_neg same, String.append_assoc, String.toList_append, String.toList_append, List.append_assoc]
    show ofLine? (Role.case.word.toList ++ _) = _
    rw [ofLine?_word, Name.read_declared h ends, String.ofList_toList]

end Introduction

end Swift

open Swift

/-! ## What a declaration introduces -/

namespace Declaration

structure Unbroken (d : Declaration) : Prop where
  name : Swift.Unbroken d.name
  members : ∀ m ∈ d.members, Swift.Unbroken m.identifier

def introduction (d : Declaration) : Introduction :=
  ⟨.struct, ⟨d.name, false⟩, if d.isEmpty then ": Decodable \x7b\x7d" else ": Decodable \x7b"⟩

/-- What the declaration introduces itself: its name, its members, and a case for each of
    them if it needs a table of keys. -/
def introductions (d : Declaration) : List Introduction :=
  d.introduction ::
    (d.members.map Introduction.ofMember ++ if d.needsCodingKeys then d.members.map Introduction.ofCase else [])

theorem mem_introductions {d : Declaration} {i : Introduction} :
    i ∈ d.introductions ↔ i = d.introduction ∨ (∃ m ∈ d.members, i = .ofMember m) ∨
      (d.needsCodingKeys ∧ ∃ m ∈ d.members, i = .ofCase m) := by
  unfold introductions
  split
  · rename_i needed
    simp [needed, eq_comm]
  · rename_i unneeded
    simp [unneeded, eq_comm]

end Declaration

namespace Swift.Introduction

def ofLines (lines : List Line) : List Introduction := lines.filterMap fun l => ofLine? l.render

theorem ofLines_append (a b : List Line) : ofLines (a ++ b) = ofLines a ++ ofLines b := List.filterMap_append

theorem ofLines_cons_some {l : Line} {i : Introduction} (h : ofLine? l.render = some i) (rest : List Line) :
    ofLines (l :: rest) = i :: ofLines rest := List.filterMap_cons_some h

theorem ofLines_cons_none {l : Line} (h : ofLine? l.render = none) (rest : List Line) :
    ofLines (l :: rest) = ofLines rest := List.filterMap_cons_none h

theorem ofLine?_blank : ofLine? Line.blank.render = none := rfl

theorem ofLine?_table (level : Nat) :
    ofLine? (Line.text level "enum CodingKeys: String, CodingKey \x7b").render = none := by
  rw [ofLine?_render]
  rfl

theorem ofLine?_closing (level : Nat) : ofLine? (Line.text level "\x7d").render = none := by
  rw [ofLine?_render]
  rfl

theorem ofLines_map {members : List Member} {line : Member → Line} {introduction : Member → Introduction}
    (h : ∀ m ∈ members, ofLine? (line m).render = some (introduction m)) :
    ofLines (members.map line) = members.map introduction := by
  induction members with
  | nil => rfl
  | cons m rest ih =>
    rw [List.map_cons, ofLines_cons_some (h m (List.mem_cons_self ..)), ih fun k hk => h k (List.mem_cons_of_mem _ hk),
      List.map_cons]

theorem ofLines_keyTable (level : Nat) {d : Declaration} (h : ∀ m ∈ d.members, Unbroken m.identifier) :
    ofLines (keyTable level d.members) = if d.needsCodingKeys then d.members.map ofCase else [] := by
  unfold keyTable Declaration.needsCodingKeys
  split
  · rw [ofLines_cons_none ofLine?_blank, ofLines_cons_none (ofLine?_table level), ofLines_append,
      ofLines_map fun m hm => ofLine?_case (level + 1) (h m hm), ofLines_cons_none (ofLine?_closing level)]
    exact List.append_nil _
  · rfl

theorem ofLines_nested (level : Nat) (nested : List Declaration) :
    ofLines (nested.flatMap fun e => Line.blank :: e.lines level) = nested.flatMap fun e => ofLines (e.lines level) := by
  induction nested with
  | nil => rfl
  | cons e rest ih =>
    rw [List.flatMap_cons, ofLines_append, ofLines_cons_none ofLine?_blank, ih, List.flatMap_cons]

/-- The lines of a declaration introduce what it introduces itself, and then what those
    nested in it do. -/
theorem ofLines_lines (level : Nat) {d : Declaration} (h : d.Unbroken) :
    ofLines (d.lines level) = d.introductions ++ d.nested.flatMap fun e => ofLines (e.lines (level + 1)) := by
  have opened (tail : String) (ends : Delimited tail.toList) :
      ofLine? (Line.text level ("struct " ++ d.name ++ tail)).render = some ⟨.struct, ⟨d.name, false⟩, tail⟩ :=
    ofLine?_struct level h.name ends
  have colon : Delimited ": Decodable \x7b".toList ∧ Delimited ": Decodable \x7b\x7d".toList :=
    ⟨delimited_cons (by decide) _, delimited_cons (by decide) _⟩
  rw [Declaration.lines_eq, structLines, Declaration.introductions, Declaration.introduction, Declaration.isEmpty]
  by_cases empty : d.members.isEmpty = true
  · have none_left : d.members = [] := List.isEmpty_iff.mp empty
    rw [if_pos empty, if_pos empty, ofLines_cons_some (opened _ colon.2)]
    simp [none_left, Declaration.nested, Declaration.needsCodingKeys, ofLines]
  · rw [if_neg empty, if_neg empty, ofLines_cons_some (opened _ colon.1), ofLines_append, ofLines_append, ofLines_append,
      ofLines_map fun m hm => ofLine?_member (level + 1) (h.members m hm), ofLines_keyTable (level + 1) h.members,
      ofLines_nested, ofLines_cons_none (ofLine?_closing level), List.cons_append]
    simp [ofLines]

/-- Line for line, a declaration introduces what the nodes of its tree do. -/
theorem mem_ofLines {d : Declaration} (unbroken : d.AtEveryNode Declaration.Unbroken) (level : Nat) (i : Introduction) :
    i ∈ ofLines (d.lines level) ↔ ∃ around x, d.Node around x ∧ i ∈ x.introductions := by
  -- Nested declarations stand one level further in, so the level varies along the induction.
  induction d using Declaration.induction generalizing level with
  | step d ih =>
    rw [ofLines_lines level unbroken.root, List.mem_append, List.mem_flatMap]
    constructor
    · rintro (here | ⟨e, he, below⟩)
      · exact ⟨[], d, .root, here⟩
      · obtain ⟨around, x, node, hx⟩ := (ih e he (unbroken.nested he) (level + 1)).mp below
        exact ⟨around ++ [d], x, node.under he, hx⟩
    · rintro ⟨around, x, node, hx⟩
      rcases node.eq_or_under with rfl | ⟨e, he, inner, below⟩
      · exact .inl hx
      · exact .inr ⟨e, he, (ih e he (unbroken.nested he) (level + 1)).mpr ⟨inner, x, below, hx⟩⟩

end Swift.Introduction

/-! ## Types of members -/

/-- A type refers to a name that holds no delimiter, if those nested beside it do so. -/
theorem Declaration.reference_unbroken {d : Declaration} (nested : ∀ e ∈ d.nested, Swift.Unbroken e.name) {m : Member}
    (hm : m ∈ d.members) : Swift.Unbroken m.type.reference := by
  have reserved : ∀ n ∈ Identifier.reservedTypeNames, Swift.Unbroken n := by decide
  cases h : m.type.declaration? with
  | none => exact reserved _ (MemberType.reference_reserved h)
  | some e =>
    rw [MemberType.reference_of_declaration? h]
    exact nested e (List.mem_filterMap.mpr ⟨m, hm, h⟩)

/-- What a member is read to refer to is what its type refers to. -/
theorem refersTo_ofMember {m : Member} (h : Unbroken m.type.reference) :
    (Introduction.ofMember m).refersTo = m.type.reference := by
  obtain ⟨n, mark, marked, spelled⟩ := m.type.source_namesType
  have kept : m.type.reference.toList.filter goesOn = m.type.reference.toList :=
    List.filter_eq_self.mpr fun c hc => (goesOn_iff c).mpr (h c hc)
  have colon : ": ".toList.filter goesOn = [] := by decide
  have opening : (List.replicate n '[').filter goesOn = [] := List.filter_replicate_of_neg (by decide)
  have closing : (List.replicate n ']').filter goesOn = [] := List.filter_replicate_of_neg (by decide)
  have unmarked : mark.toList.filter goesOn = [] := by
    rcases marked with rfl | rfl
    · rfl
    · decide
  have letters : (": " ++ m.type.source).toList.filter goesOn = m.type.reference.toList := by
    rw [String.toList_append, spelled, String.toList_append]
    simp only [List.filter_append, colon, opening, closing, unmarked, kept, List.nil_append, List.append_nil]
  rw [Introduction.refersTo, Introduction.ofMember, letters, String.ofList_toList]

/-! ## The whole text -/

theorem unbroken_no_feed {name : String} (h : Unbroken name) : '\n' ∉ name.toList := fun hc => h '\n' hc (by decide)

theorem Declaration.Unbroken.oneLine {d : Declaration} (h : d.Unbroken) : d.OneLine :=
  ⟨unbroken_no_feed h.name, fun m hm => unbroken_no_feed (h.members m hm)⟩

/-- The source of a declaration introduces what the nodes of its tree do. -/
theorem mem_ofText_source {d : Declaration} (unbroken : d.AtEveryNode Declaration.Unbroken) (level : Nat)
    (i : Introduction) :
    i ∈ Introduction.ofText (d.source level ++ "\n") ↔ ∃ around x, d.Node around x ∧ i ∈ x.introductions := by
  have read : Introduction.ofText (d.source level ++ "\n") = Introduction.ofLines (d.lines level) := by
    have plain : d.AtEveryNode Declaration.OneLine := fun around x node => (unbroken around x node).oneLine
    rw [Introduction.ofText, splitOn_source_feed plain, List.filterMap_append, List.filterMap_map]
    exact List.append_nil _
  rw [read]
  exact Introduction.mem_ofLines unbroken level i

end Decodables
