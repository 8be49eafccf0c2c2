/-
  Decodables.Proofs.EntryNames — the names that the entries of a document get, and what is
  reported of them.

  An entry of a visited object asks for the name of its member, and if there is an object in
  its value, for the name of a struct. It asks by its key and by its position in the object.
  The names that entries ask for are the names in the tree, so what is reported can be told
  name by name.

  Proved, over every object with distinct keys, every name and limit under which the sample
  succeeds:
  - `placed_of_visited`: every visited object has its declaration in the tree.
  - `mem_titles_iff`: the names in the tree are those that entries asked for.
  - `renames_reported`: each is reported just if it is not what was wanted, and once; so is
    what was wanted, if it is a name by the position.
-/

import Decodables.Proofs.NameRemarks
import Decodables.Proofs.Namespace

namespace Decodables

open Json (Value)

variable {limit : Nat}

/-! ## The names of entries -/

def Json.Value.brackets : Value → Nat
  | .array (first :: _) => first.brackets + 1
  | _ => 0

/-- A declaration in the tree, with its path, and with the object that it was made from. -/
inductive Placed (root : Declaration) (top : List (String × Value)) :
    Path → Declaration → List (String × Value) → Prop
  | root : Placed root top .top root top
  | nested {path : Path} {d e : Declaration} {entries inner : List (String × Value)} {n : Nat} {key : String} {v : Value}
      {m : Member} : Placed root top path d entries → entries[n]? = some (key, v) → d.members[n]? = some m →
    v.object? = some inner → m.type.declaration? = some e → Placed root top ((path.key key).inside v.brackets) e inner

/-- A name in the tree that an entry asked for: that of its member at the entry's path, or that
    of the declaration that the member brings at the path of the object in the value. Positions
    count from 1. -/
inductive Titled (root : Declaration) (top : List (String × Value)) : Title → Prop
  | member {path : Path} {d : Declaration} {entries : List (String × Value)} {n : Nat} {key : String} {v : Value}
      {m : Member} : Placed root top path d entries → entries[n]? = some (key, v) → d.members[n]? = some m →
    Titled root top ⟨⟨.camel, key, n + 1, (path.key key).text⟩, m.identifier⟩
  | nested {path : Path} {d e : Declaration} {entries : List (String × Value)} {n : Nat} {key : String} {v : Value}
      {m : Member} : Placed root top path d entries → entries[n]? = some (key, v) → d.members[n]? = some m →
    m.type.declaration? = some e →
    Titled root top ⟨⟨.pascal, key, n + 1, ((path.key key).inside v.brackets).text⟩, e.name⟩

/-- A type has as many arrays around its declaration as its value has around its object. -/
theorem Describes.brackets {v : Value} {t : MemberType} (h : Describes v t) (brings : t.declaration? ≠ none) :
    t.brackets = v.brackets := by
  induction h with
  | array _ ih => exact congrArg Nat.succ (ih brings)
  | number literal =>
    rcases numberType_eq_or literal with int | float
    · rw [int] at brings
      exact absurd rfl brings
    · rw [float] at brings
      exact absurd rfl brings
  | null | bool _ | string _ | empty => exact absurd rfl brings
  | object => rfl

theorem sampleMembers_describe {path : Path} {entries : List (String × Value)} :
    ∀ {scope : Scope} {position : Nat} {members : List Member},
      (sampleMembers limit scope position path entries).outcome = .ok members →
        List.Forall₂ (fun e m => Describes e.2 m.type) entries members := by
  induction entries with
  | nil => intro scope position members h; cases h; exact .nil
  | cons e rest ih =>
    intro scope position members h
    obtain ⟨_, type, others, _, _, typed, sampled, rfl⟩ := sampleMembers_cons_outcome h
    exact .cons (sampleType_accounted e.2 typed).1 (ih sampled)

section Places

variable {top entries : List (String × Value)} {root d : Declaration} {path : Path}

/-- The entry and the member at one position belong together. -/
theorem Sampled.at (h : Sampled limit entries d) {n : Nat} {e : String × Value} {m : Member}
    (he : entries[n]? = some e) (hm : d.members[n]? = some m) : Fits limit e m ∧ Describes e.2 m.type := by
  have both : (e, m) ∈ entries.zip d.members := List.mem_of_getElem? (List.getElem?_zip_eq_some.mpr ⟨he, hm⟩)
  obtain ⟨_, members⟩ := h
  exact ⟨List.forall₂_zip (sampleMembers_fit members) both, List.forall₂_zip (sampleMembers_describe members) both⟩

theorem Sampled.entry_of_member (h : Sampled limit entries d) {n : Nat} {m : Member} (hm : d.members[n]? = some m) :
    ∃ e, entries[n]? = some e := by
  obtain ⟨within, _⟩ := List.getElem?_eq_some_iff.mp hm
  rw [← h.fit.length_eq] at within
  exact ⟨entries[n], List.getElem?_eq_getElem within⟩

theorem Sampled.member_of_entry (h : Sampled limit entries d) {n : Nat} {e : String × Value}
    (he : entries[n]? = some e) : ∃ m, d.members[n]? = some m := by
  obtain ⟨within, _⟩ := List.getElem?_eq_some_iff.mp he
  rw [h.fit.length_eq] at within
  exact ⟨d.members[n], List.getElem?_eq_getElem within⟩

theorem Placed.sampled (hs : Sampled limit top root) (h : Placed root top path d entries) : Sampled limit entries d := by
  induction h with
  | root => exact hs
  | nested _ he hm object brought ih =>
    obtain ⟨inner, object', sampled⟩ := (ih.at he hm).1.of_declared brought
    rw [object] at object'
    cases object'
    exact sampled

/-- Every object that is visited has its declaration in the tree. -/
theorem placed_of_visited (hs : Sampled limit top root) {inner : List (String × Value)} (visited : Visited top inner) :
    ∃ path d, Placed root top path d inner := by
  induction visited with
  | top => exact ⟨.top, root, .root⟩
  | inner _ he object ih =>
    obtain ⟨path, d, placed⟩ := ih
    have sampled := placed.sampled hs
    obtain ⟨n, he⟩ := List.getElem?_of_mem he
    obtain ⟨m, hm⟩ := sampled.member_of_entry he
    obtain ⟨e, brought, _⟩ := (sampled.at he hm).1.of_object object
    exact ⟨_, e, .nested placed he hm object brought⟩

theorem mem_memberTitles_iff {members : List Member} {position : Nat} {u : Title} :
    u ∈ memberTitles path position members ↔ ∃ n m, members[n]? = some m ∧
      (u = ⟨⟨.camel, m.key, n + position, (path.key m.key).text⟩, m.identifier⟩ ∨
        u ∈ m.type.titles (path.key m.key) m.key (n + position)) := by
  induction members generalizing position with
  | nil => simp [memberTitles]
  | cons m rest ih =>
    rw [memberTitles, List.mem_cons, List.mem_append, ih]
    constructor
    · intro h
      rcases h with here | inside | ⟨n, m', hm, later⟩
      · exact ⟨0, m, rfl, .inl (by rw [here, Nat.zero_add])⟩
      · exact ⟨0, m, rfl, .inr (by rwa [Nat.zero_add])⟩
      · refine ⟨n + 1, m', by simpa using hm, ?_⟩
        rwa [Nat.add_assoc, Nat.add_comm 1]
    · rintro ⟨n, m', hm, h⟩
      cases n with
      | zero =>
        cases hm
        rw [Nat.zero_add] at h
        exact h.imp id .inl
      | succ n =>
        rw [List.getElem?_cons_succ] at hm
        rw [Nat.add_assoc, Nat.add_comm 1] at h
        exact .inr (.inr ⟨n, m', hm, h⟩)

/-- The names that a member's declaration brings, when it stands in the tree. -/
theorem Placed.titles_of_member (hs : Sampled limit top root) (placed : Placed root top path d entries) {n : Nat}
    {key : String} {v : Value} {m : Member} {e : Declaration} (he : entries[n]? = some (key, v))
    (hm : d.members[n]? = some m) (brought : m.type.declaration? = some e) :
    m.type.titles (path.key m.key) m.key (n + 1) =
      ⟨⟨.pascal, key, n + 1, ((path.key key).inside v.brackets).text⟩, e.name⟩ ::
        memberTitles ((path.key key).inside v.brackets) 1 e.members := by
  obtain ⟨fits, described⟩ := (placed.sampled hs).at he hm
  have same : m.key = key := fits.1
  have arrays : m.type.brackets = v.brackets := described.brackets (by simp [brought])
  rw [MemberType.titles_of_some brought, same, arrays]

theorem Placed.titles_subset (hs : Sampled limit top root) (placed : Placed root top path d entries) :
    memberTitles path 1 d.members ⊆ memberTitles .top 1 root.members := by
  induction placed with
  | root => exact List.Subset.refl _
  | @nested path d e entries inner n key v m placed he hm object brought ih =>
    intro u hu
    refine ih (mem_memberTitles_iff.mpr ⟨n, m, hm, .inr ?_⟩)
    rw [placed.titles_of_member hs he hm brought]
    exact List.mem_cons_of_mem _ hu

theorem Placed.titled (hs : Sampled limit top root) {u : Title} :
    ∀ {path : Path} {entries : List (String × Value)}, Placed root top path d entries →
      u ∈ memberTitles path 1 d.members → Titled root top u := by
  induction d using Declaration.induction with
  | step d ih =>
    intro path entries placed hu
    obtain ⟨n, m, hm, h⟩ := mem_memberTitles_iff.mp hu
    obtain ⟨⟨key, v⟩, he⟩ := (placed.sampled hs).entry_of_member hm
    rcases h with rfl | h
    · obtain ⟨fits, _⟩ := (placed.sampled hs).at he hm
      rw [fits.1]
      exact .member placed he hm
    · cases brought : m.type.declaration? with
      | none =>
        rw [MemberType.titles_of_none brought] at h
        cases h
      | some e =>
        obtain ⟨fits, _⟩ := (placed.sampled hs).at he hm
        obtain ⟨inner, object, _⟩ := fits.of_declared brought
        rw [placed.titles_of_member hs he hm brought] at h
        rcases List.mem_cons.mp h with rfl | h
        · exact .nested placed he hm brought
        · have within : e ∈ d.nested := List.mem_filterMap.mpr ⟨m, List.mem_of_getElem? hm, brought⟩
          exact ih e within (.nested placed he hm object brought) h

/-- The names in the tree are those that entries asked for. -/
theorem mem_titles_iff (hs : Sampled limit top root) {u : Title} :
    u ∈ memberTitles .top 1 root.members ↔ Titled root top u := by
  refine ⟨fun hu => Placed.titled hs .root hu, fun h => ?_⟩
  cases h with
  | @member path d entries n key v m placed he hm =>
    refine placed.titles_subset hs (mem_memberTitles_iff.mpr ⟨n, m, hm, .inl ?_⟩)
    rw [((placed.sampled hs).at he hm).1.1]
  | @nested path d e entries n key v m placed he hm brought =>
    refine placed.titles_subset hs (mem_memberTitles_iff.mpr ⟨n, m, hm, .inr ?_⟩)
    rw [placed.titles_of_member hs he hm brought]
    exact List.mem_cons_self ..

end Places

/-! ## Documents -/

def Represents (e : String × Value) (m : Member) : Prop :=
  m.key = e.1 ∧ (m.type.declaration?.isSome ↔ e.2.object?.isSome)

theorem Fits.represents {e : String × Value} {m : Member} (h : Fits limit e m) : Represents e m := by
  refine ⟨h.1, ?_⟩
  rcases h.2 with ⟨none, none'⟩ | ⟨_, _, some, some', _⟩
  · simp [none, none']
  · simp [some, some']

variable {name : String} {entries : List (String × Value)} {root : Declaration} {warnings : List Warning}

/-- With distinct keys in the document, no members of a node have one key. -/
theorem sampled_keyed (hs : Sampled limit entries root) (distinct : (Value.object entries).keysDistinct) :
    root.AtEveryNode fun d => (d.members.map (·.key)).Nodup := by
  intro around d node
  obtain ⟨inner, stands⟩ := node_standsFor hs distinct node
  obtain ⟨sampled, distinct'⟩ := standsFor_sampled hs distinct stands
  show (d.members.map (·.key)).Nodup
  rw [members_keys sampled]
  exact (Json.keysDistinct_object_iff.mp distinct').1

theorem ofSample_named (sampled : Declaration.ofSample limit name entries = ⟨warnings, .ok root⟩) :
    ofNames warnings = (memberTitles .top 1 root.members).flatMap Title.remarks := by
  obtain ⟨members, inner, rfl, rfl⟩ := ofSample_run sampled
  exact sampleMembers_named entries inner

/-- In the tree of a sample the members of an object have the names that its entries asked for,
    and so have the declarations they bring. Whether a name is reported to be another one than
    was wanted, and whether what was wanted is reported to be a name by the position, is all the
    same as whether it is; each is reported once and at the path of the request. No other
    warnings are of names. -/
theorem renames_reported (distinct : (Value.object entries).keysDistinct)
    (sampled : Declaration.ofSample limit name entries = ⟨warnings, .ok root⟩) :
    (∀ inner, Visited entries inner → ∃ path d, Placed root entries path d inner) ∧
      (∀ path d inner, Placed root entries path d inner → List.Forall₂ Represents inner d.members) ∧
      (∀ t, Titled root entries t →
        warnings.count t.renamed = (if t.name = t.request.wanted then 0 else 1) ∧
          warnings.count t.mended = if t.request.NamesNothing then 1 else 0) ∧
      ∀ w ∈ warnings, w.cause.ofArray ∨ ∃ t, Titled root entries t ∧
        ((t.request.NamesNothing ∧ w = t.mended) ∨ (t.name ≠ t.request.wanted ∧ w = t.renamed)) := by
  have outcome : (Declaration.ofSample limit name entries).outcome = .ok root := by rw [sampled]
  obtain ⟨_, hs⟩ := ofSample_ok outcome
  have named := ofSample_named sampled
  have apart := titles_apart (sampled_distinct hs) (sampled_keyed hs distinct) .top
  have counted : ∀ w : Warning, w.cause.ofArray = false →
      warnings.count w = ((memberTitles .top 1 root.members).flatMap Title.remarks).count w := by
    intro w name
    rw [← named, ofNames, List.count_filter]
    simp [name]
  refine ⟨fun inner visited => placed_of_visited hs visited, ?_, ?_, ?_⟩
  · exact fun path d inner placed => (placed.sampled hs).fit.imp fun e m => Fits.represents
  · intro t titled
    have ht := (mem_titles_iff hs).mpr titled
    constructor
    · rw [counted _ rfl, Title.count_remarks apart ht fun u => Title.Apart.not_renamed, Title.count_renamed]
    · rw [counted _ rfl, Title.count_remarks apart ht fun u => Title.Apart.not_mended, Title.count_mended]
  · intro w hw
    by_cases array : w.cause.ofArray
    · exact .inl array
    · have seen : w ∈ ofNames warnings := List.mem_filter.mpr ⟨hw, by simpa using array⟩
      rw [named] at seen
      obtain ⟨t, ht, remarked⟩ := List.mem_flatMap.mp seen
      exact .inr ⟨t, (mem_titles_iff hs).mp ht, Title.mem_remarks.mp remarked⟩

def ledger : List (String × Value) :=
  [("a b", .array [.object [("!", .null)]]), ("aB", .array [.array [.object []]]), ("_", .object [])]

def ledgerRoot : Declaration :=
  ⟨"Ledger",
    [⟨"a b", "aB", .array (.declared "AB" [⟨"!", "field1", .optionalAny⟩])⟩,
     ⟨"aB", "aB2", .array (.array (.declared "AB2" []))⟩, ⟨"_", "field3", .declared "Field3" []⟩]⟩

def ledgerWarnings : List Warning :=
  [⟨"$[\"a b\"][0][\"!\"]", .emptyIdentifier "!" "field1"⟩, ⟨"$.aB", .collision "aB" "aB" "aB2"⟩,
   ⟨"$.aB[0][0]", .collision "aB" "AB" "AB2"⟩, ⟨"$._", .emptyIdentifier "_" "field3"⟩,
   ⟨"$._", .emptyIdentifier "_" "Field3"⟩]

def ledgerTitle : Title := ⟨⟨.pascal, "aB", 2, ((Path.top.key "aB").inside 2).text⟩, "AB2"⟩

theorem ledger_reported :
    (Value.object ledger).keysDistinct ∧ Declaration.ofSample 9 "Ledger" ledger = ⟨ledgerWarnings, .ok ledgerRoot⟩ ∧
      Titled ledgerRoot ledger ledgerTitle ∧ ledgerTitle.renamed = ⟨"$.aB[0][0]", .collision "aB" "AB" "AB2"⟩ ∧
      ledgerWarnings.count ledgerTitle.renamed = 1 ∧ ledgerWarnings.count ledgerTitle.mended = 0 ∧
      ∀ w ∈ ledgerWarnings, w.cause.ofArray ∨ ∃ t, Titled ledgerRoot ledger t ∧
        ((t.request.NamesNothing ∧ w = t.mended) ∨ (t.name ≠ t.request.wanted ∧ w = t.renamed)) := by
  have distinct : (Value.object ledger).keysDistinct := by decide
  have sampled : Declaration.ofSample 9 "Ledger" ledger = ⟨ledgerWarnings, .ok ledgerRoot⟩ := by
    have warned : (Declaration.ofSample 9 "Ledger" ledger).warnings = ledgerWarnings := by decide +kernel
    have outcome : (Declaration.ofSample 9 "Ledger" ledger).outcome = .ok ledgerRoot := by rfl
    rw [← warned, ← outcome]
  have entry : ledger[1]? = some ("aB", .array [.array [.object []]]) := rfl
  have member : ledgerRoot.members[1]? = some ⟨"aB", "aB2", .array (.array (.declared "AB2" []))⟩ := rfl
  have titled := Titled.nested .root entry member rfl
  have written : ledgerTitle.renamed = ⟨"$.aB[0][0]", .collision "aB" "AB" "AB2"⟩ := by decide
  have wanted : ledgerTitle.name ≠ ledgerTitle.request.wanted := by decide
  have derives : ¬ ledgerTitle.request.NamesNothing := by decide
  obtain ⟨-, -, counted, others⟩ := renames_reported distinct sampled
  have once := (counted ledgerTitle titled).1
  have never := (counted ledgerTitle titled).2
  rw [if_neg wanted] at once
  rw [if_neg derives] at never
  exact ⟨distinct, sampled, titled, written, once, never, others⟩

end Decodables
