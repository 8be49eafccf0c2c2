/-
  Decodables.Proofs.Swift.Block — source text as a tree of blocks.

  A block is what a struct says about itself: its name, its members with their types, the
  cases of its table of keys if it has one, and the blocks nested in it. The reader goes
  from line to line and keeps the blocks that are still open, innermost first. A text is
  read if it is one block and nothing else.

  Proved, of every declaration whose names are spelled as names, at every level:
  - `run_lines`: wherever a block can stand, the lines of a declaration are read as one
    block, the picture of the declaration.
  - `ofText_source`: so the source of a declaration is read as that block.
-/

import Decodables.Proofs.Swift.Lines
import Decodables.Proofs.Swift.Statement

namespace Decodables

namespace Swift

/-! ## The reader -/

structure Block where
  name : String
  members : List (Name × TypeExpr)
  /-- The cases of the table of keys, each with its raw value if it has one. -/
  table : Option (List (Name × Option String))
  nested : List Block
  deriving Repr

namespace Block

def bare (name : String) : Block := ⟨name, [], none, []⟩

def nest (b inner : Block) : Block := { b with nested := b.nested ++ [inner] }

/-- The keys that are looked up for the members: the raw values of their cases, the name
    itself where there is none. -/
def keys (b : Block) : List String :=
  match b.table with
  | none => b.members.map (·.1.letters)
  | some cases => cases.map fun (name, raw) => raw.getD name.letters

end Block

inductive Reader where
  /-- Inside the first of the open blocks. -/
  | block (around : List Block)
  /-- Inside its table of keys, behind these cases. -/
  | table (cases : List (Name × Option String)) (around : List Block)

namespace Reader

def step : Reader → Statement → Option Reader
  | r, .blank => some r
  | .block around, .opening name => some (.block (.bare name :: around))
  | .block (b :: around), .bare name => some (.block (b.nest (.bare name) :: around))
  | .block (b :: around), .member name type =>
    some (.block ({ b with members := b.members ++ [(name, type)] } :: around))
  | .block (b :: around), .table => if b.table.isNone then some (.table [] (b :: around)) else none
  | .table cases around, .case name raw => some (.table (cases ++ [(name, raw)]) around)
  | .table cases (b :: around), .closing => some (.block ({ b with table := some cases } :: around))
  | .block (b :: outer :: around), .closing => some (.block (outer.nest b :: around))
  | _, _ => none

def line (r : Reader) (l : List Char) : Option Reader := (Statement.ofLine? l).bind r.step

def run (r : Reader) (lines : List (List Char)) : Option Reader := lines.foldlM line r

theorem run_nil (r : Reader) : r.run [] = some r := rfl

theorem run_cons (r : Reader) (l : List Char) (lines : List (List Char)) :
    r.run (l :: lines) = (r.line l).bind fun next => next.run lines := rfl

theorem run_append (r : Reader) (a b : List (List Char)) : r.run (a ++ b) = (r.run a).bind fun next => next.run b :=
  List.foldlM_append

theorem line_statement {r : Reader} {l : List Char} {s : Statement} (h : Statement.ofLine? l = some s) :
    r.line l = r.step s := by
  rw [line, h, Option.bind_some]

end Reader

/-- The text as lines, the reader behind them, and the block if it was the only thing read.
    The outermost level is read as a block that has no name. -/
def Block.ofText (text : String) : Option Block :=
  match (Reader.block [.bare ""]).run (text.toList.splitOn '\n') with
  | some (.block [⟨_, [], none, [b]⟩]) => some b
  | _ => none

end Swift

open Swift

/-! ## The picture of a declaration -/

def MemberOf.entry (m : Member) : Name × TypeExpr := (.ofIdentifier m.identifier, m.type.expr)

def MemberOf.case (m : Member) : Name × Option String :=
  (.ofIdentifier m.identifier, if m.matchesKey then none else some m.key)

def keyCases (members : List Member) : Option (List (Name × Option String)) :=
  if members.any fun m => !m.matchesKey then some (members.map (·.case)) else none

mutual

def MemberType.pictures : MemberType → List Block
  | .declared name members => [⟨name, members.map (·.entry), keyCases members, memberPictures members⟩]
  | .array element => element.pictures
  | _ => []

def memberPictures : List Member → List Block
  | [] => []
  | ⟨_, _, type⟩ :: rest => type.pictures ++ memberPictures rest

end

/-- The declaration as a reader of the source sees it. -/
def Declaration.picture (d : Declaration) : Block :=
  ⟨d.name, d.members.map (·.entry), keyCases d.members, memberPictures d.members⟩

theorem MemberType.pictures_eq (t : MemberType) : t.pictures = (t.declaration?.map (·.picture)).toList := by
  match t with
  | .array element => exact element.pictures_eq
  | .declared _ _ | .string | .int | .float | .boolean | .optionalAny | .unknown => rfl

theorem memberPictures_eq (members : List Member) :
    memberPictures members = (members.filterMap (·.type.declaration?)).map (·.picture) := by
  induction members with
  | nil => rfl
  | cons m rest ih =>
    rw [memberPictures, ih, m.type.pictures_eq]
    cases h : m.type.declaration? with
    | none => simp [h]
    | some e => simp [h]

/-- The picture of a declaration, by the declarations nested in it. -/
theorem Declaration.picture_eq (d : Declaration) :
    d.picture = ⟨d.name, d.members.map (·.entry), keyCases d.members, d.nested.map (·.picture)⟩ := by
  rw [picture, memberPictures_eq]
  rfl

/-! ## Reading the lines back -/

structure Declaration.Spelled (d : Declaration) : Prop where
  name : IsName d.name
  members : ∀ m ∈ d.members, IsName m.identifier

instance : DecidablePred Declaration.Spelled := fun d =>
  decidable_of_iff (IsName d.name ∧ ∀ m ∈ d.members, IsName m.identifier)
    ⟨fun h => ⟨h.1, h.2⟩, fun h => ⟨h.name, h.members⟩⟩

theorem IsName.no_feed {name : String} (h : IsName name) : '\n' ∉ name.toList := fun hc =>
  absurd (h.spelled '\n' hc) (by decide)

theorem Declaration.Spelled.oneLine {d : Declaration} (h : d.Spelled) : d.OneLine :=
  ⟨h.name.no_feed, fun m hm => (h.members m hm).no_feed⟩

theorem reserved_isName : ∀ n ∈ Identifier.reservedTypeNames, IsName n := by decide

/-- So every type refers to a name. -/
theorem Declaration.reference_isName {d : Declaration} (nested : ∀ e ∈ d.nested, IsName e.name) {m : Member}
    (hm : m ∈ d.members) : IsName m.type.reference := by
  cases h : m.type.declaration? with
  | none => exact reserved_isName _ (MemberType.reference_reserved h)
  | some e =>
    rw [MemberType.reference_of_declaration? h]
    exact nested e (List.mem_filterMap.mpr ⟨m, hm, h⟩)

namespace Swift.Reader

theorem run_members (level : Nat) (around : List Block) {members : List Member}
    (named : ∀ m ∈ members, IsName m.identifier) (typed : ∀ m ∈ members, IsName m.type.reference) (b : Block) :
    (Reader.block (b :: around)).run ((members.map (memberLine level)).map Line.render) =
      some (.block ({ b with members := b.members ++ members.map (·.entry) } :: around)) := by
  induction members generalizing b with
  | nil => cases b; simp [run_nil]
  | cons m rest ih =>
    have read := Statement.ofLine?_member level (named m (List.mem_cons_self ..)) (typed m (List.mem_cons_self ..))
    have behind := ih (fun k hk => named k (List.mem_cons_of_mem _ hk)) (fun k hk => typed k (List.mem_cons_of_mem _ hk))
      { b with members := b.members ++ [m.entry] }
    rw [List.map_cons, List.map_cons, run_cons, line_statement read]
    simpa [step, MemberOf.entry] using behind

theorem run_cases (level : Nat) (around : List Block) {members : List Member}
    (named : ∀ m ∈ members, IsName m.identifier) (cases : List (Name × Option String)) :
    (Reader.table cases around).run ((members.map (caseLine level)).map Line.render) =
      some (.table (cases ++ members.map (·.case)) around) := by
  induction members generalizing cases with
  | nil => simp [run_nil]
  | cons m rest ih =>
    have read := Statement.ofLine?_case level (named m (List.mem_cons_self ..))
    have behind := ih (fun k hk => named k (List.mem_cons_of_mem _ hk)) (cases ++ [m.case])
    rw [List.map_cons, List.map_cons, run_cons, line_statement read]
    simpa [step, MemberOf.case] using behind

theorem line_blank (r : Reader) : r.line Line.blank.render = some r := by
  rw [line_statement (s := .blank) rfl]
  cases r <;> rfl

theorem run_keyTable (level : Nat) (around : List Block) {members : List Member}
    (named : ∀ m ∈ members, IsName m.identifier) {b : Block} (untold : b.table = none) :
    (Reader.block (b :: around)).run ((keyTable level members).map Line.render) =
      some (.block ({ b with table := keyCases members } :: around)) := by
  unfold keyTable keyCases
  split
  · have opened : (Reader.block (b :: around)).step .table = some (.table [] (b :: around)) := by simp [step, untold]
    have closed : (Reader.table (members.map (·.case)) (b :: around)).line (Line.text level "\x7d").render =
        some (.block ({ b with table := some (members.map (·.case)) } :: around)) :=
      line_statement (Statement.ofLine?_closing level)
    rw [List.map_cons, run_cons, line_blank, Option.bind_some, List.map_cons, run_cons,
      line_statement (Statement.ofLine?_table level), opened, Option.bind_some, List.map_append, run_append,
      run_cases (level + 1) (b :: around) named, Option.bind_some, List.nil_append, List.map_singleton, run_cons, closed]
    rfl
  · cases b
    rw [List.map_nil, run_nil, ← untold]

/-- Declarations that are each read as a block are read as blocks one after the other. -/
theorem run_nested (level : Nat) (around : List Block) {nested : List Declaration}
    (each : ∀ e ∈ nested, ∀ b : Block, (Reader.block (b :: around)).run ((e.lines level).map Line.render) =
      some (.block (b.nest e.picture :: around))) (b : Block) :
    (Reader.block (b :: around)).run ((nested.flatMap fun e => Line.blank :: e.lines level).map Line.render) =
      some (.block ({ b with nested := b.nested ++ nested.map (·.picture) } :: around)) := by
  induction nested generalizing b with
  | nil => cases b; simp [run_nil]
  | cons e rest ih =>
    have behind := ih (fun k hk => each k (List.mem_cons_of_mem _ hk)) (b.nest e.picture)
    rw [List.flatMap_cons, List.map_append, List.map_cons, List.cons_append, run_cons, line_blank, Option.bind_some,
      run_append, each e (List.mem_cons_self ..) b, Option.bind_some, behind]
    simp [Block.nest]

/-- Wherever a block can stand, the lines of a declaration are read as one block. -/
theorem run_lines {d : Declaration} (spelled : d.AtEveryNode Declaration.Spelled) (level : Nat) (around : List Block)
    (b : Block) :
    (Reader.block (b :: around)).run ((d.lines level).map Line.render) =
      some (.block (b.nest d.picture :: around)) := by
  -- Nested structs are read with this one open, so the open blocks vary along the induction.
  induction d using Declaration.induction generalizing level around b with
  | step d ih =>
    obtain ⟨named, members⟩ := spelled.root
    have typed : ∀ m ∈ d.members, IsName m.type.reference := fun m hm =>
      Declaration.reference_isName (fun e he => (spelled.nested he).root.name) hm
    have nested := run_nested (level + 1) (b :: around) fun e (he : e ∈ d.nested) c =>
      ih e he (spelled.nested he) (level + 1) (b :: around) c
    rw [Declaration.lines_eq, structLines]
    split
    · rename_i empty
      have bare : d.picture = .bare d.name := by
        rw [Declaration.picture, List.isEmpty_iff.mp empty]
        rfl
      rw [List.map_singleton, run_cons, line_statement (Statement.ofLine?_bare level named), bare]
      rfl
    · have opened : (Reader.block (b :: around)).line
          (Line.text level ("struct " ++ d.name ++ ": Decodable \x7b")).render =
            some (.block (.bare d.name :: b :: around)) :=
        line_statement (Statement.ofLine?_opening level named)
      have closed (inner : Block) : (Reader.block (inner :: b :: around)).line (Line.text level "\x7d").render =
          some (.block (b.nest inner :: around)) :=
        line_statement (Statement.ofLine?_closing level)
      rw [List.map_cons, run_cons, opened, Option.bind_some]
      simp only [List.map_append, run_append]
      rw [run_members (level + 1) (b :: around) members typed, Option.bind_some,
        run_keyTable (level + 1) (b :: around) members rfl, Option.bind_some, nested, Option.bind_some,
        List.map_singleton, run_cons, closed, Option.bind_some, run_nil, d.picture_eq]
      rfl

end Swift.Reader

/-- The source of a declaration is read as one block. -/
theorem ofText_source {d : Declaration} (spelled : d.AtEveryNode Declaration.Spelled) (level : Nat) :
    Block.ofText (d.source level) = some d.picture := by
  have read := Reader.run_lines spelled level [] (.bare "")
  rw [Block.ofText, splitOn_source fun around e node => (spelled around e node).oneLine, read]
  rfl

end Decodables
