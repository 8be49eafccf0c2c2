/-
  Decodables.Proofs.Swift.Lines — source text is the lines that were written.

  A key gets into the text as a literal, and a literal holds no line feed. So if no name
  holds one, no line does, and the text has just the lines that a declaration is made of.

  Proved, of every declaration, at every level:
  - `Declaration.lines_eq`: its lines, by the declarations nested in it.
  - `lines_no_feed`: no line holds a line feed, if no name does.
  - `splitOn_source`: then the text is split into the lines again.
-/

import Decodables.Proofs.DeclarationTree
import Decodables.Proofs.Swift.LiteralReading

namespace Decodables

open Identifier (declared)
open Swift

/-! ## The lines of a declaration -/

theorem MemberType.blocks_eq (level : Nat) (t : MemberType) :
    t.blocks level = (t.declaration?.toList).flatMap fun e => .blank :: e.lines level := by
  match t with
  | .array element => exact element.blocks_eq level
  | .declared _ _ => simp [blocks, declaration?, Declaration.lines]
  | .string | .int | .float | .boolean | .optionalAny | .unknown => rfl

theorem memberBlocks_eq (level : Nat) (members : List Member) :
    memberBlocks level members =
      (members.filterMap (·.type.declaration?)).flatMap fun e => .blank :: e.lines level := by
  induction members with
  | nil => rfl
  | cons m rest ih =>
    rw [memberBlocks, ih, m.type.blocks_eq]
    cases h : m.type.declaration? with
    | none => simp [h]
    | some e => simp [h]

/-- The lines of a declaration, by the declarations nested in it. -/
theorem Declaration.lines_eq (level : Nat) (d : Declaration) :
    d.lines level = structLines level d.name d.members (d.nested.flatMap fun e => .blank :: e.lines (level + 1)) := by
  rw [lines, memberBlocks_eq]
  rfl

theorem Declaration.lines_ne_nil (level : Nat) (d : Declaration) : d.lines level ≠ [] := by
  rw [lines_eq, structLines]
  split <;> simp

/-! ## Line feeds -/

structure Declaration.OneLine (d : Declaration) : Prop where
  name : '\n' ∉ d.name.toList
  members : ∀ m ∈ d.members, '\n' ∉ m.identifier.toList

instance : DecidablePred Declaration.OneLine := fun d =>
  decidable_of_iff ('\n' ∉ d.name.toList ∧ ∀ m ∈ d.members, '\n' ∉ m.identifier.toList)
    ⟨fun h => ⟨h.1, h.2⟩, fun h => ⟨h.name, h.members⟩⟩

theorem declared_no_feed {identifier : String} (h : '\n' ∉ identifier.toList) : '\n' ∉ (declared identifier).toList := by
  unfold declared
  split
  · simp [h]
  · exact h

theorem write_no_feed (key : String) : '\n' ∉ (StringLiteral.write key).toList := by
  have inside : '\n' ∉ StringLiteral.body key.toList := fun hc =>
    absurd (StringLiteral.body_no_control key.toList '\n' hc) (by decide)
  simp [StringLiteral.write, inside]

theorem render_no_feed {level : Nat} {content : String} (h : '\n' ∉ content.toList) :
    '\n' ∉ (Line.text level content).render := by
  simp [Line.render, h]

/-- A type refers to a name without a line feed, if the names of those nested beside it hold none. -/
theorem Declaration.reference_no_feed {d : Declaration} (nested : ∀ e ∈ d.nested, '\n' ∉ e.name.toList) {m : Member}
    (hm : m ∈ d.members) : '\n' ∉ m.type.reference.toList := by
  have reserved : ∀ n ∈ Identifier.reservedTypeNames, '\n' ∉ n.toList := by decide
  cases h : m.type.declaration? with
  | none => exact reserved _ (MemberType.reference_reserved h)
  | some e =>
    rw [MemberType.reference_of_declaration? h]
    exact nested e (List.mem_filterMap.mpr ⟨m, hm, h⟩)

theorem source_no_feed {t : MemberType} (h : '\n' ∉ t.reference.toList) : '\n' ∉ t.source.toList := by
  obtain ⟨n, mark, marked, spelled⟩ := t.source_namesType
  rcases marked with rfl | rfl
  · simp [spelled, h, List.mem_replicate]
  · simp [spelled, h, List.mem_replicate]

theorem memberLine_no_feed (level : Nat) {m : Member} (named : '\n' ∉ m.identifier.toList)
    (typed : '\n' ∉ m.type.reference.toList) : '\n' ∉ (memberLine level m).render := by
  refine render_no_feed ?_
  simp [declared_no_feed named, source_no_feed typed]

theorem caseLine_no_feed (level : Nat) {m : Member} (named : '\n' ∉ m.identifier.toList) :
    '\n' ∉ (caseLine level m).render := by
  refine render_no_feed ?_
  split
  · simp [declared_no_feed named]
  · simp [declared_no_feed named, write_no_feed m.key]

theorem keyTable_no_feed (level : Nat) {members : List Member} (named : ∀ m ∈ members, '\n' ∉ m.identifier.toList) :
    ∀ l ∈ keyTable level members, '\n' ∉ l.render := by
  intro l hl
  unfold keyTable at hl
  split at hl
  · simp only [List.mem_cons, List.mem_append, List.mem_map, List.mem_nil_iff, or_false] at hl
    rcases hl with rfl | rfl | ⟨m, hm, rfl⟩ | rfl
    · exact List.not_mem_nil
    · exact render_no_feed (by decide)
    · exact caseLine_no_feed (level + 1) (named m hm)
    · exact render_no_feed (by decide)
  · cases hl

/-- No line of a source holds a line feed. -/
theorem lines_no_feed {d : Declaration} (plain : d.AtEveryNode Declaration.OneLine) (level : Nat) :
    ∀ l ∈ d.lines level, '\n' ∉ l.render := by
  induction d using Declaration.induction generalizing level with
  | step d ih =>
    have named := plain.root.name
    have typed : ∀ m ∈ d.members, '\n' ∉ m.type.reference.toList := fun m hm =>
      Declaration.reference_no_feed (fun e he => (plain.nested he).root.name) hm
    intro l hl
    rw [Declaration.lines_eq, structLines] at hl
    split at hl
    · rw [List.mem_singleton.mp hl]
      exact render_no_feed (by simp [named])
    · simp only [List.mem_cons, List.mem_append, List.mem_map, List.mem_flatMap, List.mem_nil_iff, or_false] at hl
      rcases hl with rfl | ((⟨m, hm, rfl⟩ | hl) | ⟨e, he, rfl | hl⟩) | rfl
      · exact render_no_feed (by simp [named])
      · exact memberLine_no_feed (level + 1) (plain.root.members m hm) (typed m hm)
      · exact keyTable_no_feed (level + 1) plain.root.members l hl
      · exact List.not_mem_nil
      · exact ih e he (plain.nested he) (level + 1) l hl
      · exact render_no_feed (by decide)

/-! ## The whole text -/

/-- The text of a declaration has just its lines. -/
theorem splitOn_source {d : Declaration} (plain : d.AtEveryNode Declaration.OneLine) (level : Nat) :
    (d.source level).toList.splitOn '\n' = (d.lines level).map Line.render := by
  have no_feed : ∀ l ∈ (d.lines level).map Line.render, '\n' ∉ l := by
    intro l hl
    obtain ⟨k, hk, rfl⟩ := List.mem_map.mp hl
    exact lines_no_feed plain level k hk
  have some_line : (d.lines level).map Line.render ≠ [] := by simp [Declaration.lines_ne_nil]
  rw [Declaration.source, Line.unlines, String.toList_ofList, List.splitOn_intercalate '\n' no_feed some_line]

/-- A line feed at the end brings an empty line. -/
theorem splitOn_source_of_lines {d : Declaration} (plain : d.AtEveryNode Declaration.OneLine) {level : Nat}
    {texts : List String} (shown : ((d.lines level).map fun l => String.ofList l.render) = texts) :
    (d.source level).toList.splitOn '\n' = texts.map String.toList := by
  rw [splitOn_source plain, ← shown, List.map_map]
  exact List.map_congr_left fun l _ => (String.toList_ofList ..).symm

theorem splitOn_source_feed {d : Declaration} (plain : d.AtEveryNode Declaration.OneLine) (level : Nat) :
    (d.source level ++ "\n").toList.splitOn '\n' = (d.lines level).map Line.render ++ [[]] := by
  have ended : (d.source level ++ "\n").toList = (d.source level).toList ++ '\n' :: [] := by simp
  have whole := splitOn_source plain level
  rw [ended]
  rw [List.splitOn] at whole ⊢
  rw [List.splitOnP_append_cons _ _ (by simp), whole, List.splitOnP_nil]

end Decodables
