/-
  Decodables.Proofs.Swift.Layout — how source text is laid out.

  A reader that goes by lines keeps the blocks that are open: a line that starts like a struct
  or an enum and ends with an open brace opens one, and a line that is a closing brace closes
  the innermost. Each line that is not empty stands four spaces further in for each block that
  is open around it. A line that opens or closes a block stands outside of it.

  Proved, of every declaration whose names hold no line feed, at every level:
  - `lines_nested`: its lines stand where they should, and every block is closed.
  - `source_indent`: a level more moves every line that is not empty by four spaces.
  - `lines_spaced`: empty lines stand alone between others.
  - `source_layout`: so the text of a declaration is laid out, and so is that of every
    conversion, which ends in one line feed.
-/

import Decodables.Proofs.GivenNames
import Decodables.Proofs.Json.DocumentReading
import Mathlib.Data.List.Chain

namespace Decodables

open Identifier (declared)
open Json (Value)

namespace Swift

/-! ## Blocks of a text -/

def indentation (l : List Char) : Nat := (l.takeWhile (· == ' ')).length

def content (l : List Char) : List Char := l.dropWhile (· == ' ')

def opens (l : List Char) : Bool :=
  ("struct ".toList.isPrefixOf (content l) || "enum ".toList.isPrefixOf (content l)) && l.getLast? == some '\x7b'

def closes (l : List Char) : Bool := content l == ['\x7d']

/-- The blocks around a line, when some blocks are open in front of it. A block stands for
    the line that opened it. -/
def around (blocks : List (List Char)) (l : List Char) : List (List Char) :=
  if closes l then blocks.tail else blocks

def behind (blocks : List (List Char)) (l : List Char) : List (List Char) :=
  if opens l then l :: blocks else around blocks l

def openBlocks (lines : List (List Char)) : List (List Char) := lines.foldl behind []

def indent (levels : Nat) (text : String) : String :=
  String.ofList (['\n'].intercalate ((text.toList.splitOn '\n').map fun l =>
    if l.isEmpty then [] else List.replicate (4 * levels) ' ' ++ l))

/-! ## Single lines -/

namespace Line

def Flush : Line → Prop
  | .blank => True
  | .text _ s => ∃ c rest, s.toList = c :: rest ∧ c ≠ ' '

theorem content_render {level : Nat} {s : String} (h : (Line.text level s).Flush) :
    content (Line.text level s).render = s.toList := by
  obtain ⟨c, rest, head, visible⟩ := h
  have spaces : ∀ x ∈ List.replicate (4 * level) ' ', (x == ' ') = true := by
    intro x hx
    simp [(List.mem_replicate.mp hx).2]
  simp [content, render, List.dropWhile_append_of_pos spaces, head, visible]

theorem indentation_render {level : Nat} {s : String} (h : (Line.text level s).Flush) :
    indentation (Line.text level s).render = 4 * level := by
  obtain ⟨c, rest, head, visible⟩ := h
  have spaces : ∀ x ∈ List.replicate (4 * level) ' ', (x == ' ') = true := by
    intro x hx
    simp [(List.mem_replicate.mp hx).2]
  simp [indentation, render, List.takeWhile_append_of_pos spaces, head, visible]

theorem render_ne_nil {level : Nat} {s : String} (h : (Line.text level s).Flush) : (Line.text level s).render ≠ [] := by
  obtain ⟨c, rest, head, -⟩ := h
  simp [render, head]

/-- A line some levels further in has so many more spaces in front, unless it is empty. -/
theorem render_shift {l : Line} (h : l.Flush) (levels : Nat) :
    (l.shift levels).render = if l.render.isEmpty then [] else List.replicate (4 * levels) ' ' ++ l.render := by
  cases l with
  | blank => rfl
  | text level s =>
    have some_char := render_ne_nil h
    rw [if_neg (by simpa using some_char)]
    have spaces : 4 * (level + levels) = 4 * levels + 4 * level := by omega
    simp only [shift, render, spaces, List.replicate_add, List.append_assoc]

end Line

structure Line.Reads (level : Nat) (opening closing : Bool) (l : Line) : Prop where
  flush : l.Flush
  indented : l.render ≠ [] → indentation l.render = 4 * level
  opens : opens l.render = opening
  closes : closes l.render = closing

namespace Line

theorem reads_blank (level : Nat) : Line.Reads level false false .blank := ⟨trivial, nofun, rfl, rfl⟩

/-- A line with content is read by its content. -/
theorem reads_text {level : Nat} {s : String} (h : (Line.text level s).Flush) {opening closing : Bool}
    (opens : (("struct ".toList.isPrefixOf s.toList || "enum ".toList.isPrefixOf s.toList) &&
      s.toList.getLast? == some '\x7b') = opening)
    (closes : (s.toList == ['\x7d']) = closing) : Line.Reads level opening closing (.text level s) := by
  have last : (Line.text level s).render.getLast? = s.toList.getLast? := by
    obtain ⟨c, rest, head, -⟩ := h
    simp [render, head, List.getLast?_cons]
  refine ⟨h, fun _ => indentation_render h, ?_, ?_⟩
  · rw [Swift.opens, content_render h, last, opens]
  · rw [Swift.closes, content_render h, closes]

end Line

end Swift

open Swift

/-! ## The lines of declarations -/

section Lines

variable (level : Nat) (m : Member) (name : String)

theorem memberLine_reads : (memberLine level m).Reads level false false := by
  obtain ⟨rest, starts⟩ : ∃ rest, ("let " ++ declared m.identifier ++ ": " ++ m.type.source).toList = 'l' :: rest :=
    ⟨_, by simp; rfl⟩
  refine Line.reads_text ⟨'l', rest, starts, by decide⟩ ?_ ?_
  · rw [starts]; simp [List.isPrefixOf]
  · rw [starts]; simp

theorem caseLine_reads : (caseLine level m).Reads level false false := by
  obtain ⟨rest, starts⟩ : ∃ rest, (if m.matchesKey then "case " ++ declared m.identifier
      else "case " ++ declared m.identifier ++ " = " ++ StringLiteral.write m.key).toList = 'c' :: rest := by
    split
    · exact ⟨_, by simp; rfl⟩
    · exact ⟨_, by simp; rfl⟩
  refine Line.reads_text ⟨'c', rest, starts, by decide⟩ ?_ ?_
  · rw [starts]; simp [List.isPrefixOf]
  · rw [starts]; simp

/-- A line that declares a struct is told by how it ends. -/
theorem struct_reads {tail : String} {last : Char} (ends : tail.toList.getLast? = some last) :
    (Line.text level ("struct " ++ name ++ tail)).Reads level (last == '\x7b') false := by
  have starts : ("struct " ++ name ++ tail).toList = 's' :: ("truct ".toList ++ name.toList ++ tail.toList) := by simp
  have ends' : ("struct " ++ name ++ tail).toList.getLast? = some last := by
    rw [String.toList_append, List.getLast?_append, ends, Option.some_or]
  refine Line.reads_text ⟨'s', _, starts, by decide⟩ ?_ ?_
  · rw [ends', starts]; simp [List.isPrefixOf]
  · rw [starts]; simp

theorem header_reads : (Line.text level ("struct " ++ name ++ ": Decodable \x7b")).Reads level true false := by
  have ends : ": Decodable \x7b".toList.getLast? = some '\x7b' := by decide
  exact struct_reads level name ends

theorem bare_reads : (Line.text level ("struct " ++ name ++ ": Decodable \x7b\x7d")).Reads level false false := by
  have ends : ": Decodable \x7b\x7d".toList.getLast? = some '\x7d' := by decide
  exact struct_reads level name ends

theorem table_reads : (Line.text level "enum CodingKeys: String, CodingKey \x7b").Reads level true false :=
  Line.reads_text ⟨'e', _, rfl, by decide⟩ (by decide) (by decide)

theorem closing_reads : (Line.text level "\x7d").Reads level false true :=
  Line.reads_text ⟨'\x7d', _, rfl, by decide⟩ (by decide) (by decide)

end Lines

/-! ## Where lines stand -/

namespace Swift

/-- Each line that is not empty stands so many levels further in than the first ones as there
    are blocks around it, when these blocks are open in front. -/
def Stands (k : Nat) : List (List Char) → List (List Char) → Prop
  | _, [] => True
  | blocks, l :: rest =>
    (l ≠ [] → indentation l = 4 * (k + (around blocks l).length)) ∧ Stands k (behind blocks l) rest

theorem stands_append {k : Nat} {blocks a b : List (List Char)} :
    Stands k blocks (a ++ b) ↔ Stands k blocks a ∧ Stands k (a.foldl behind blocks) b := by
  induction a generalizing blocks with
  | nil => simp [Stands]
  | cons l a ih => simp only [List.cons_append, Stands, ih, List.foldl_cons, and_assoc]

/-- Lines stand where they should among open blocks, and leave just these blocks open. -/
structure Nested (k : Nat) (blocks : List (List Char)) (lines : List Line) : Prop where
  flush : ∀ l ∈ lines, l.Flush
  stands : Stands k blocks (lines.map Line.render)
  closed : (lines.map Line.render).foldl behind blocks = blocks

namespace Nested

variable {k level : Nat} {blocks : List (List Char)}

theorem nil : Nested k blocks [] := ⟨nofun, trivial, rfl⟩

theorem append {a b : List Line} (ha : Nested k blocks a) (hb : Nested k blocks b) : Nested k blocks (a ++ b) := by
  refine ⟨?_, ?_, ?_⟩
  · intro l hl
    rcases List.mem_append.mp hl with hl | hl
    · exact ha.flush l hl
    · exact hb.flush l hl
  · rw [List.map_append, stands_append, ha.closed]
    exact ⟨ha.stands, hb.stands⟩
  · rw [List.map_append, List.foldl_append, ha.closed, hb.closed]

/-- A line that opens and closes nothing leaves the blocks as they are. -/
theorem cons {l : Line} {rest : List Line} (at_level : level = k + blocks.length) (here : l.Reads level false false)
    (h : Nested k blocks rest) : Nested k blocks (l :: rest) := by
  have same : around blocks l.render = blocks := by simp [around, here.closes]
  have same' : behind blocks l.render = blocks := by simp [behind, here.opens, same]
  refine ⟨List.forall_mem_cons.mpr ⟨here.flush, h.flush⟩, ?_, ?_⟩
  · simp only [List.map_cons, Stands, same, same']
    exact ⟨fun shown => at_level ▸ here.indented shown, h.stands⟩
  · rw [List.map_cons, List.foldl_cons, same', h.closed]

theorem of_reads {lines : List Line} (at_level : level = k + blocks.length)
    (h : ∀ l ∈ lines, l.Reads level false false) : Nested k blocks lines := by
  induction lines with
  | nil => exact nil
  | cons l rest ih =>
    obtain ⟨here, others⟩ := List.forall_mem_cons.mp h
    exact cons at_level here (ih others)

/-- Structs stand one after another, each behind an empty line. -/
theorem structs {nested : List Declaration} (at_level : level = k + blocks.length)
    (h : ∀ e ∈ nested, Nested k blocks (e.lines level)) :
    Nested k blocks (nested.flatMap fun e => .blank :: e.lines level) := by
  induction nested with
  | nil => exact nil
  | cons e rest ih =>
    obtain ⟨here, others⟩ := List.forall_mem_cons.mp h
    rw [List.flatMap_cons]
    exact (cons at_level (Line.reads_blank level) here).append (ih others)

/-- The first and the last line of a block stand outside of it, and what is between them a
    level further in. -/
theorem block {first last : Line} {inner : List Line} (at_level : level = k + blocks.length)
    (opening : first.Reads level true false) (closing : last.Reads level false true)
    (h : Nested k (first.render :: blocks) inner) : Nested k blocks (first :: (inner ++ [last])) := by
  have outside : around blocks first.render = blocks := by simp [around, opening.closes]
  have entered : behind blocks first.render = first.render :: blocks := by simp [behind, opening.opens]
  have outside' : around (first.render :: blocks) last.render = blocks := by simp [around, closing.closes]
  have left : behind (first.render :: blocks) last.render = blocks := by simp [behind, closing.opens, outside']
  refine ⟨?_, ?_, ?_⟩
  · intro l hl
    rcases List.mem_cons.mp hl with rfl | hl
    · exact opening.flush
    rcases List.mem_append.mp hl with hl | hl
    · exact h.flush l hl
    · rw [List.mem_singleton.mp hl]
      exact closing.flush
  · rw [List.map_cons, List.map_append, Stands, outside, entered, stands_append, h.closed]
    refine ⟨fun shown => at_level ▸ opening.indented shown, h.stands, ?_⟩
    simp only [List.map_cons, List.map_nil, Stands, outside', and_true]
    exact fun shown => at_level ▸ closing.indented shown
  · rw [List.map_cons, List.foldl_cons, entered, List.map_append, List.foldl_append, h.closed]
    simp [left]

end Nested

end Swift

/-- Behind a line that opens a block, lines stand a level further in. -/
theorem succ_eq_add_length_cons {k level : Nat} {blocks : List (List Char)} (at_level : level = k + blocks.length) (l : List Char) :
    level + 1 = k + (l :: blocks).length := by
  simp only [List.length_cons]
  omega

theorem keyTable_nested {k level : Nat} {blocks : List (List Char)} (at_level : level = k + blocks.length)
    (members : List Member) : Nested k blocks (keyTable level members) := by
  unfold keyTable
  split
  · refine .cons at_level (Line.reads_blank level) (.block at_level (table_reads level) (closing_reads level) ?_)
    apply Nested.of_reads (succ_eq_add_length_cons at_level _)
    intro l hl
    obtain ⟨m, _, rfl⟩ := List.mem_map.mp hl
    exact caseLine_reads (level + 1) m
  · exact .nil

/-- Wherever a declaration stands, its lines stand a level further in for each block. -/
theorem lines_nested (d : Declaration) (k : Nat) {level : Nat} {blocks : List (List Char)}
    (at_level : level = k + blocks.length) : Nested k blocks (d.lines level) := by
  -- Nested structs stand inside this one, so the open blocks vary along the induction.
  induction d using Declaration.induction generalizing level blocks with
  | step d ih =>
    rw [Declaration.lines_eq, structLines]
    split
    · exact .cons at_level (bare_reads level d.name) .nil
    · apply Nested.block at_level (header_reads level d.name) (closing_reads level)
      have inside := succ_eq_add_length_cons at_level (Line.text level ("struct " ++ d.name ++ ": Decodable \x7b")).render
      have structs := Nested.structs inside fun e he => ih e he inside
      refine .append (.append (.of_reads inside ?_) (keyTable_nested inside d.members)) structs
      intro l hl
      obtain ⟨m, _, rfl⟩ := List.mem_map.mp hl
      exact memberLine_reads (level + 1) m

/-! ## Levels -/

theorem keyTable_shift (level k : Nat) (members : List Member) :
    keyTable (level + k) members = (keyTable level members).map (Line.shift k) := by
  unfold keyTable
  split
  · simp [Line.shift, caseLine, Nat.add_right_comm]
  · rfl

theorem structLines_shift (level k : Nat) (name : String) (members : List Member) (nested : List Line) :
    structLines (level + k) name members (nested.map (Line.shift k)) =
      (structLines level name members nested).map (Line.shift k) := by
  unfold structLines
  split
  · rfl
  · have further := keyTable_shift (level + 1) k members
    rw [Nat.add_right_comm] at further
    simp [Line.shift, memberLine, further, Nat.add_right_comm]

/-- A declaration some levels further in has its lines there. -/
theorem lines_shift (d : Declaration) (level k : Nat) : d.lines (level + k) = (d.lines level).map (Line.shift k) := by
  induction d using Declaration.induction generalizing level with
  | step d ih =>
    have nested : (d.nested.flatMap fun e => .blank :: e.lines (level + k + 1)) =
        (d.nested.flatMap fun e => .blank :: e.lines (level + 1)).map (Line.shift k) := by
      rw [List.map_flatMap]
      refine List.flatMap_congr fun e he => ?_
      rw [Nat.add_right_comm, ih e he, List.map_cons, Line.shift]
    rw [Declaration.lines_eq, Declaration.lines_eq, nested, structLines_shift]

/-- The text at a level is the text at the outermost with every line further in. -/
theorem source_indent {d : Declaration} (plain : d.AtEveryNode Declaration.OneLine) (k : Nat) :
    d.source k = indent k (d.source 0) := by
  have nested : Nested 0 [] (d.lines 0) := lines_nested d 0 rfl
  have moved := lines_shift d 0 k
  rw [Nat.zero_add] at moved
  rw [indent, splitOn_source plain, List.map_map, Declaration.source, Line.unlines, moved, List.map_map]
  congr 2
  exact List.map_congr_left fun l hl => Line.render_shift (nested.flush l hl) k

/-! ## Empty lines -/

theorem lines_head (level : Nat) (d : Declaration) : ∃ first rest, d.lines level = first :: rest ∧ first.render ≠ [] := by
  rw [Declaration.lines_eq, structLines]
  split
  · exact ⟨_, _, rfl, Line.render_ne_nil (bare_reads level d.name).flush⟩
  · exact ⟨_, _, rfl, Line.render_ne_nil (header_reads level d.name).flush⟩

def Separate (a b : List Char) : Prop := a ≠ [] ∨ b ≠ []

/-- Empty lines stand by themselves, each with a line behind it. -/
structure Spaced (lines : List Line) : Prop where
  chain : (lines.map Line.render).IsChain Separate
  last : ∀ l ∈ (lines.map Line.render).getLast?, l ≠ []

namespace Spaced

theorem nil : Spaced [] := ⟨.nil, nofun⟩

theorem append {a b : List Line} (ha : Spaced a) (hb : Spaced b) : Spaced (a ++ b) := by
  refine ⟨?_, ?_⟩
  · rw [List.map_append, List.isChain_append]
    exact ⟨ha.chain, hb.chain, fun x hx _ _ => .inl (ha.last x hx)⟩
  · intro l hl
    rw [List.map_append, List.getLast?_append, Option.mem_def, Option.or_eq_some_iff] at hl
    rcases hl with hl | ⟨_, hl⟩
    · exact hb.last l hl
    · exact ha.last l hl

theorem shown {l : Line} (h : l.render ≠ []) : Spaced [l] := by
  refine ⟨List.isChain_singleton _, ?_⟩
  intro x hx
  cases hx
  exact h

theorem of_shown {lines : List Line} (h : ∀ l ∈ lines, l.render ≠ []) : Spaced lines := by
  induction lines with
  | nil => exact nil
  | cons l rest ih =>
    obtain ⟨here, others⟩ := List.forall_mem_cons.mp h
    exact append (shown here) (ih others)

/-- An empty line goes in front of one that is not. -/
theorem blank {l : Line} {rest : List Line} (h : l.render ≠ []) (spaced : Spaced (l :: rest)) :
    Spaced (.blank :: l :: rest) := by
  refine ⟨?_, ?_⟩
  · exact List.isChain_cons_cons.mpr ⟨.inr h, spaced.chain⟩
  · intro x hx
    exact spaced.last x (by simpa [List.getLast?_cons] using hx)

/-- Structs are set apart by the empty lines in front of them. -/
theorem structs {level : Nat} {nested : List Declaration} (h : ∀ e ∈ nested, Spaced (e.lines level)) :
    Spaced (nested.flatMap fun e => .blank :: e.lines level) := by
  induction nested with
  | nil => exact nil
  | cons e rest ih =>
    obtain ⟨here, others⟩ := List.forall_mem_cons.mp h
    obtain ⟨first, behind, starts, shown⟩ := lines_head level e
    rw [starts] at here
    rw [List.flatMap_cons, starts]
    exact (blank shown here).append (ih others)

end Spaced

theorem keyTable_spaced (level : Nat) (members : List Member) : Spaced (keyTable level members) := by
  unfold keyTable
  split
  · have opening := Line.render_ne_nil (table_reads level).flush
    refine .blank opening (.append (a := [_]) (.shown opening) (.append (.of_shown ?_) (.shown ?_)))
    · intro l hl
      obtain ⟨m, _, rfl⟩ := List.mem_map.mp hl
      exact Line.render_ne_nil (caseLine_reads (level + 1) m).flush
    · exact Line.render_ne_nil (closing_reads level).flush
  · exact .nil

theorem lines_spaced (d : Declaration) (level : Nat) : Spaced (d.lines level) := by
  induction d using Declaration.induction generalizing level with
  | step d ih =>
    rw [Declaration.lines_eq, structLines]
    split
    · exact .shown (Line.render_ne_nil (bare_reads level d.name).flush)
    · have opening := Line.render_ne_nil (header_reads level d.name).flush
      have closing := Line.render_ne_nil (closing_reads level).flush
      refine .append (a := [_]) (.shown opening) (.append (.append (.append (.of_shown ?_) ?_) ?_) (.shown closing))
      · intro l hl
        obtain ⟨m, _, rfl⟩ := List.mem_map.mp hl
        exact Line.render_ne_nil (memberLine_reads (level + 1) m).flush
      · exact keyTable_spaced (level + 1) d.members
      · exact .structs fun e he => ih e he (level + 1)

/-! ## The whole text -/

/-- The last line of a declaration ends in a brace. -/
theorem lines_last (level : Nat) (d : Declaration) :
    ∃ front last, d.lines level = front ++ [last] ∧ last.render.getLast? = some '\x7d' := by
  rw [Declaration.lines_eq, structLines]
  split
  · refine ⟨[], _, rfl, ?_⟩
    have ends : ": Decodable \x7b\x7d".toList.getLast? = some '\x7d' := by decide
    rw [Line.render, String.toList_append, List.getLast?_append, List.getLast?_append, ends]
    rfl
  · refine ⟨_ :: _, _, rfl, ?_⟩
    simp [Line.render, List.getLast?_append]

/-- A joined text ends like its last piece. -/
theorem getLast?_intercalate (sep : List Char) (front : List (List Char)) {last : List Char} {c : Char}
    (h : last.getLast? = some c) : (sep.intercalate (front ++ [last])).getLast? = some c := by
  induction front with
  | nil => simpa using h
  | cons l rest ih =>
    obtain ⟨next, others, cons⟩ : ∃ next others, rest ++ [last] = next :: others :=
      List.exists_cons_of_ne_nil (by simp)
    rw [cons] at ih
    rw [List.cons_append, cons, List.intercalate_cons_cons, List.getLast?_append, ih, Option.some_or]

namespace Swift

/-- A text is laid out from a level on: its lines are as far in as there are blocks around
    them, all blocks are closed, empty lines stand alone between others, and a brace ends it. -/
structure LaidOut (level : Nat) (text : String) : Prop where
  indented : ∀ before l after, text.toList.splitOn '\n' = before ++ l :: after → l ≠ [] →
    indentation l = 4 * (level + (around (openBlocks before) l).length)
  closed : openBlocks (text.toList.splitOn '\n') = []
  separate : (text.toList.splitOn '\n').IsChain Separate
  first : ∀ l ∈ (text.toList.splitOn '\n').head?, l ≠ []
  last : ∀ l ∈ (text.toList.splitOn '\n').getLast?, l ≠ []
  ends : text.toList.getLast? = some '\x7d'

end Swift

theorem source_laidOut {d : Declaration} (plain : d.AtEveryNode Declaration.OneLine) (level : Nat) :
    LaidOut level (d.source level) := by
  have nested : Nested level [] (d.lines level) := lines_nested d level rfl
  have spaced := lines_spaced d level
  have split := splitOn_source plain level
  refine ⟨?_, ?_, ?_, ?_, ?_, ?_⟩
  · intro before l after cut shown
    have stands := nested.stands
    rw [← split, cut, stands_append] at stands
    exact stands.2.1 shown
  · rw [split]
    exact nested.closed
  · rw [split]
    exact spaced.chain
  · obtain ⟨first, rest, starts, shown⟩ := lines_head level d
    intro l hl
    rw [split, starts] at hl
    cases hl
    exact shown
  · rw [split]
    exact spaced.last
  · obtain ⟨front, last, ends, brace⟩ := lines_last level d
    rw [Declaration.source, Line.unlines, String.toList_ofList, ends, List.map_append, List.map_singleton]
    exact getLast?_intercalate ['\n'] _ brace

/-- What scopes give has no line feed, so just the name of the root could bring one. -/
theorem sampled_oneLine {limit : Nat} {entries : List (String × Value)} {root : Declaration}
    (sampled : Sampled limit entries root) (named : '\n' ∉ root.name.toList) :
    root.AtEveryNode Declaration.OneLine := by
  intro outer d node
  obtain ⟨_, _, here⟩ := node_sampled sampled node
  refine ⟨?_, fun m hm => unbroken_no_feed (given_unbroken (here.named.members m hm))⟩
  cases node with
  | root => exact named
  | nested above hd =>
    obtain ⟨_, _, around⟩ := node_sampled sampled above
    exact unbroken_no_feed (given_unbroken (around.named.nested d hd))

/-- The source of a declaration is laid out at every level, and just moves with the level. So
    a conversion has a source that is laid out, with one line feed behind it. -/
theorem source_layout :
    (∀ (d : Declaration) (level : Nat), d.AtEveryNode Declaration.OneLine →
      d.source level = indent level (d.source 0) ∧ LaidOut level (d.source level)) ∧
    ∀ (settings : Settings) (text : String) (c : Conversion), '\n' ∉ settings.rootName.toList →
      Conversion.ofText settings text = .ok c → ∃ body, c.source = body ++ "\n" ∧ LaidOut 0 body := by
  refine ⟨fun d level plain => ⟨source_indent plain level, source_laidOut plain level⟩, ?_⟩
  intro settings text c named converted
  unfold Conversion.ofText at converted
  cases read : Value.ofText? text with
  | error error =>
    rw [read] at converted
    cases converted
  | ok document =>
    rw [read] at converted
    obtain ⟨_, root, _, sampled, rfl⟩ := Conversion.ofDocument_ok_iff.mp converted
    obtain ⟨titled, hs⟩ := ofSample_ok sampled
    exact ⟨root.source 0, rfl, source_laidOut (sampled_oneLine hs (titled ▸ named)) 0⟩

/-- Keys that look like lines of a struct, and structs that are empty or have no table of
    keys. -/
def attic : Declaration :=
  ⟨"Attic",
    [⟨"\n\x7d\nstruct Box \x7b", "box", .array (.declared "Box" [])⟩,
      ⟨"enum", "enum", .declared "Enum" [⟨"lid", "lid", .declared "Lid" [⟨"struct \x7b", "struct", .int⟩]⟩]⟩]⟩

def atticLines : List String :=
  ["            struct Attic: Decodable \x7b",
   "                let box: [Box]",
   "                let `enum`: Enum",
   "",
   "                enum CodingKeys: String, CodingKey \x7b",
   "                    case box = \"\\n\x7d\\nstruct Box \x7b\"",
   "                    case `enum`",
   "                \x7d",
   "",
   "                struct Box: Decodable \x7b\x7d",
   "",
   "                struct Enum: Decodable \x7b",
   "                    let lid: Lid",
   "",
   "                    struct Lid: Decodable \x7b",
   "                        let `struct`: Int",
   "",
   "                        enum CodingKeys: String, CodingKey \x7b",
   "                            case `struct` = \"struct \x7b\"",
   "                        \x7d",
   "                    \x7d",
   "                \x7d",
   "            \x7d"]

def loft : Value := .object [("\x7d\n", .object []), ("struct \x7b\n", .array [.number "1"])]

def loftRoot : Declaration :=
  ⟨"JsonDecodable", [⟨"\x7d\n", "field1", .declared "Field1" []⟩, ⟨"struct \x7b\n", "struct", .array .int⟩]⟩

def loftLines : List String :=
  ["struct JsonDecodable: Decodable \x7b",
   "    let field1: Field1",
   "    let `struct`: [Int]",
   "",
   "    enum CodingKeys: String, CodingKey \x7b",
   "        case field1 = \"\x7d\\n\"",
   "        case `struct` = \"struct \x7b\\n\"",
   "    \x7d",
   "",
   "    struct Field1: Decodable \x7b\x7d",
   "\x7d"]

theorem attic_laidOut :
    attic.AtEveryNode Declaration.OneLine ∧ attic.source 3 = indent 3 (attic.source 0) ∧ LaidOut 3 (attic.source 3) ∧
      (attic.source 3).toList.splitOn '\n' = atticLines.map String.toList ∧
      '\n' ∉ Settings.standard.rootName.toList ∧
      ∃ c body, Conversion.ofText .standard loft.compact = .ok c ∧ c.source = body ++ "\n" ∧ LaidOut 0 body ∧
        body.toList.splitOn '\n' = loftLines.map String.toList := by
  have plain : attic.AtEveryNode Declaration.OneLine := by decide
  have named : '\n' ∉ Settings.standard.rootName.toList := by decide
  have read : Value.ofText? loft.compact = .ok loft :=
    (Json.ofText?_compact_iff (by decide) (by decide)).mpr (by rfl)
  obtain ⟨c, converted, written⟩ :
      ∃ c, Conversion.ofDocument .standard loft = .ok c ∧ c.source = loftRoot.source 0 ++ "\n" := ⟨_, rfl, by rfl⟩
  have ofText : Conversion.ofText .standard loft.compact = .ok c := by
    rw [Conversion.ofText, read]
    exact converted
  obtain ⟨moved, stands⟩ := source_layout.1 attic 3 plain
  obtain ⟨body, ends, laidOut⟩ := source_layout.2 .standard loft.compact c named ofText
  have whole : body = loftRoot.source 0 := by simpa using ends.symm.trans written
  refine ⟨plain, moved, stands, splitOn_source_of_lines plain (by rfl), named, c, body, ofText, ends, laidOut, ?_⟩
  rw [whole]
  exact splitOn_source_of_lines (by decide) (by rfl)

end Decodables
