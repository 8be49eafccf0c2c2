/-
  Decodables.Proofs.KeyTable — the keys that generated code looks up.

  Without a table a member is looked up under its own name. With one it is looked up under
  the raw value of its case, and under its name if the case has none. The table is all or
  nothing: one member whose name differs from its key brings a case for each.

  Proved, of every declaration whose names are spelled as names, whatever its keys:
  - `picture_keys`: the keys that are looked up are those of the members, in their order.
  - `table_reads_back`: what a reader of the source finds has these keys, a table only if a
    name differs from its key, and a case for every member under the name that it is
    declared with; and the literal of any text at all is read as that text.
-/

import Decodables.Proofs.Swift.Block

namespace Decodables

open Swift
open Swift.StringLiteral (Scan body isControl read)

theorem matchesKey_iff (m : Member) : m.matchesKey ↔ m.identifier = m.key := beq_iff_eq

/-- The key that is looked up by a case. -/
theorem case_key (m : Member) : m.case.2.getD m.case.1.letters = m.key := by
  by_cases same : m.matchesKey = true
  · simpa [MemberOf.case, same, Name.ofIdentifier] using (matchesKey_iff m).mp same
  · simp [MemberOf.case, same]

theorem keyCases_isSome (members : List Member) :
    (keyCases members).isSome ↔ ∃ m ∈ members, m.identifier ≠ m.key := by
  simp [keyCases, MemberOf.matchesKey]

theorem eq_of_keyCases {members : List Member} {cases : List (Name × Option String)}
    (h : keyCases members = some cases) : cases = members.map (·.case) := by
  unfold keyCases at h
  split at h
  · exact (Option.some.inj h).symm
  · cases h

namespace Declaration

theorem picture_keys (d : Declaration) : d.picture.keys = d.members.map (·.key) := by
  cases h : keyCases d.members with
  | none =>
    have plain : ∀ m ∈ d.members, m.identifier = m.key := by
      intro m hm
      have none_differs : ¬∃ m ∈ d.members, m.identifier ≠ m.key := by
        rw [← keyCases_isSome, h]
        exact Bool.false_ne_true
      exact Decidable.of_not_not fun differs => none_differs ⟨m, hm, differs⟩
    have keys : d.picture.keys = d.members.map (·.identifier) := by
      simp [Block.keys, picture, h, MemberOf.entry, Name.ofIdentifier]
    rw [keys]
    exact List.map_congr_left plain
  | some cases =>
    have keys : d.picture.keys = d.members.map fun m => m.case.2.getD m.case.1.letters := by
      simp [Block.keys, picture, h, eq_of_keyCases h]
    rw [keys]
    exact List.map_congr_left fun m _ => case_key m

/-- The source of a declaration read as a block: there is a table of keys if and only if
    some member's name differs from its key, the table has a case for each member under the
    name that it is declared with, and the key looked up for each member is its own. The
    literal of any text has no control character and no double quote outside an escape, and
    is read as that text up to its own closing quote, whatever follows. -/
theorem table_reads_back (level : Nat) {d : Declaration} (spelled : d.AtEveryNode Spelled) :
    (∃ b, Block.ofText (d.source level) = some b ∧ b.name = d.name ∧
      b.members.map (·.1) = d.members.map (fun m => Name.ofIdentifier m.identifier) ∧
      (b.table.isSome ↔ ∃ m ∈ d.members, m.identifier ≠ m.key) ∧
      (∀ cases, b.table = some cases → cases.map (·.1) = d.members.map fun m => Name.ofIdentifier m.identifier) ∧
      b.keys = d.members.map (·.key)) ∧
    ∀ s : String, (∀ c ∈ body s.toList, isControl c = false) ∧
      (∀ before after, body s.toList = before ++ '"' :: after →
        ∃ text, Scan.start.pass before = some ⟨text, .escape⟩) ∧
      ∀ rest, read (body s.toList ++ '"' :: rest) = some (s.toList, rest) := by
  refine ⟨⟨d.picture, ofText_source spelled level, rfl, ?_, keyCases_isSome d.members, ?_, d.picture_keys⟩, ?_⟩
  · simp [picture, MemberOf.entry]
  · intro cases h
    rw [eq_of_keyCases h]
    simp [MemberOf.case]
  · intro s
    refine ⟨StringLiteral.body_no_control s.toList, ?_, fun rest => StringLiteral.read_body s.toList rest⟩
    intro before after h
    exact StringLiteral.quote_escaped (h ▸ StringLiteral.pass_body s.toList)

/-- A declaration with a keyword for a name, and keys that hold what could end a literal, a
    line or a block. -/
def shelf : Declaration :=
  ⟨"Shelf",
    [⟨"class", "class", .array (.array (.declared "Book" [⟨"\"\n\x7d", "title", .unknown⟩]))⟩,
      ⟨"\\(n)\"", "n", .int⟩, ⟨"\x007\u0085\r", "default", .optionalAny⟩]⟩

theorem shelf_reads_back :
    shelf.AtEveryNode Spelled ∧
      ∃ b, Block.ofText (shelf.source 1) = some b ∧ b.table.isSome ∧ b.keys = ["class", "\\(n)\"", "\x007\u0085\r"] := by
  have spelled : shelf.AtEveryNode Spelled := by decide
  obtain ⟨⟨b, read, _, _, table, _, keys⟩, _⟩ := table_reads_back 1 spelled
  exact ⟨spelled, b, read, table.mpr ⟨_, List.mem_cons_of_mem _ (List.mem_cons_self ..), by decide⟩, keys⟩

end Declaration

end Decodables
