/-
  Decodables.Proofs.Acceptance — a declaration accepts the sample it was made from.

  What a type accepts is what decoding takes. A struct takes an object that has, under the
  key which is looked up for each member, a value that the member's type takes, and that
  has no other keys. Arrays are typed from their first element, so a sample is taken with
  each of its arrays cut to that.

  A node stands for the object found under the keys of the members that lead to it. With
  distinct keys there is one such object for every node, and its keys are those of the
  members, in their order.

  Proved, over every object, name and limit:
  - `codingKey_eq_key`: the key that is looked up for a member is its own.
  - `sampleType_accepts`, `sampleMembers_accept`: the type of a value accepts the value.
  - `standsFor_sampled`, `node_standsFor`: the objects that the nodes stand for.
  - `sample_accepted`: the whole declaration accepts its sample, looks no key up twice, and
    follows the order of the keys.
-/

import Mathlib.Data.List.Nodup
import Decodables.Proofs.Json.ValueTree
import Decodables.Proofs.Sampling

namespace Decodables

open Json (Value)
open Declaration (Node)

/-! ## What is looked up -/

/-- The key that is looked up for a member: its name if there is no table of keys or the
    name is the key, else the key that the table has for it. -/
def MemberOf.codingKey {τ : Type} (table : Bool) (m : MemberOf τ) : String :=
  if table && !m.matchesKey then m.key else m.identifier

namespace Declaration

def codingKey (d : Declaration) (m : Member) : String := m.codingKey d.needsCodingKeys

theorem codingKey_eq_key {d : Declaration} {m : Member} (hm : m ∈ d.members) : d.codingKey m = m.key := by
  unfold codingKey MemberOf.codingKey
  by_cases same : m.matchesKey
  · simpa [same] using beq_iff_eq.mp same
  · have table : d.needsCodingKeys = true := List.any_eq_true.mpr ⟨m, hm, by simpa using same⟩
    simp [same, table]

def type (d : Declaration) : MemberType := .declared d.name d.members

end Declaration

/-! ## What is accepted -/

mutual

def MemberType.accepts : MemberType → Value → Bool
  | .string, .string _ => true
  | .int, .number literal => !literal.toList.contains '.'
  | .float, .number literal => literal.toList.contains '.'
  | .boolean, .bool _ => true
  | .optionalAny, _ => true
  | .unknown, _ => true
  | .array element, .array items => items.all fun item => element.accepts item
  | .declared name members, .object entries =>
    let table := (Declaration.mk name members).needsCodingKeys
    membersAccept table members entries && entries.all fun e => members.any fun m => m.codingKey table == e.1
  | _, _ => false

def membersAccept (table : Bool) : List Member → List (String × Value) → Bool
  | [], _ => true
  | ⟨key, identifier, type⟩ :: rest, entries =>
    (entries.any fun e => e.1 == (MemberOf.mk key identifier type).codingKey table && type.accepts e.2)
      && membersAccept table rest entries

end

theorem membersAccept_iff {table : Bool} {members : List Member} {entries : List (String × Value)} :
    membersAccept table members entries ↔
      ∀ m ∈ members, ∃ v, (m.codingKey table, v) ∈ entries ∧ m.type.accepts v := by
  induction members with
  | nil => simp [membersAccept]
  | cons m rest ih =>
    rw [membersAccept, Bool.and_eq_true, ih, List.forall_mem_cons]
    refine and_congr_left fun _ => ?_
    simp only [List.any_eq_true, Bool.and_eq_true, beq_iff_eq]
    constructor
    · rintro ⟨⟨_, v⟩, he, rfl, hv⟩
      exact ⟨v, he, hv⟩
    · rintro ⟨v, he, hv⟩
      exact ⟨_, he, rfl, hv⟩

/-- A declaration accepts an object if each member finds a value that its type accepts, and
    each key is looked up for some member. -/
theorem accepts_object_iff {d : Declaration} {entries : List (String × Value)} :
    d.type.accepts (.object entries) ↔
      (∀ m ∈ d.members, ∃ v, (d.codingKey m, v) ∈ entries ∧ m.type.accepts v) ∧
        ∀ e ∈ entries, ∃ m ∈ d.members, d.codingKey m = e.1 := by
  simp only [Declaration.type, MemberType.accepts, Bool.and_eq_true, membersAccept_iff, List.all_eq_true,
    List.any_eq_true, beq_iff_eq]
  exact .rfl

/-! ## Samples cut to first elements -/

namespace Json

mutual

def Value.cut : Value → Value
  | .array [] => .array []
  | .array (first :: _) => .array [first.cut]
  | .object entries => .object (cutEntries entries)
  | .null => .null
  | .bool b => .bool b
  | .number literal => .number literal
  | .string s => .string s

def cutEntries : List (String × Value) → List (String × Value)
  | [] => []
  | (key, value) :: rest => (key, value.cut) :: cutEntries rest

end

theorem cutEntries_eq (entries : List (String × Value)) :
    cutEntries entries = entries.map fun e => (e.1, e.2.cut) := by
  induction entries with
  | nil => rfl
  | cons e rest ih => rw [cutEntries, ih, List.map_cons]

end Json

def Takes (e : String × Value) (m : Member) : Prop := m.key = e.1 ∧ m.type.accepts e.2.cut

/-- A declaration whose members take the entries one for one accepts the object. -/
theorem accepts_cut {d : Declaration} {entries : List (String × Value)} (h : List.Forall₂ Takes entries d.members) :
    d.type.accepts (Value.object entries).cut := by
  rw [Value.cut, Json.cutEntries_eq, accepts_object_iff]
  constructor
  · intro m hm
    obtain ⟨e, he, key, accepted⟩ := exists_left_of_mem h hm
    rw [Declaration.codingKey_eq_key hm, key]
    exact ⟨e.2.cut, List.mem_map.mpr ⟨e, he, rfl⟩, accepted⟩
  · intro e' he'
    obtain ⟨e, he, rfl⟩ := List.mem_map.mp he'
    obtain ⟨m, hm, key, _⟩ := exists_right_of_mem h he
    exact ⟨m, hm, (Declaration.codingKey_eq_key hm).trans key⟩

theorem numberType_accepts (literal : String) : (numberType literal).accepts (.number literal) := by
  unfold numberType
  split
  · rename_i point
    exact point
  · rename_i whole
    simpa [MemberType.accepts] using whole

mutual

theorem sampleType_accepts {limit : Nat} {naming after : Naming} {path : Path} {t : MemberType} :
    (v : Value) → (sampleType limit naming path v).outcome = .ok (t, after) → t.accepts v.cut
  | .null, h | .bool _, h | .string _, h => by
    simp only [sampleType, Report.pure_outcome] at h
    cases h
    rfl
  | .number literal, h => by
    simp only [sampleType, Report.pure_outcome] at h
    cases h
    exact numberType_accepts literal
  | .array [], h => by
    simp only [sampleType, sampleElement, Report.bind_ok, Report.warn_outcome, Report.pure_outcome] at h
    obtain ⟨_, _, _, h₁, h₂⟩ := h
    cases h₁; cases h₂
    rfl
  | .array (first :: rest), h => by
    simp only [sampleType, sampleElement, Report.bind_ok, Report.warn_outcome, Report.pure_outcome] at h
    obtain ⟨_, _, ⟨element, _⟩, ⟨_, _, h₁⟩, h₂⟩ := h
    cases h₂
    simpa [Value.cut, MemberType.accepts] using sampleType_accepts first h₁
  | .object entries, h => by
    simp only [sampleType, Naming.claim, Report.bind_ok, Report.warn_outcome, Report.pure_outcome] at h
    obtain ⟨_, _, ⟨name, _⟩, _, members, hm, h₂⟩ := h
    cases h₂
    exact accepts_cut (d := ⟨name, members⟩) (sampleMembers_accept entries hm)

theorem sampleMembers_accept {limit : Nat} {scope : Scope} {position : Nat} {path : Path} {members : List Member} :
    (entries : List (String × Value)) → (sampleMembers limit scope position path entries).outcome = .ok members →
      List.Forall₂ Takes entries members
  | [] => fun h => by cases h; exact .nil
  | (key, value) :: rest => fun h => by
    obtain ⟨_, type, others, _, _, typed, ho, rfl⟩ := sampleMembers_cons_outcome h
    exact .cons ⟨rfl, sampleType_accepts value typed⟩ (sampleMembers_accept rest ho)

end

/-! ## The objects that nodes stand for -/

namespace Json

/-- Keys stay distinct on the way through arrays to an object. -/
theorem keysDistinct_of_object? {v : Value} {inner : List (String × Value)} (h : v.keysDistinct)
    (hv : v.object? = some inner) : (Value.object inner).keysDistinct := by
  match v with
  | .object entries => cases hv; exact h
  | .array (first :: rest) =>
    rw [Value.keysDistinct, itemKeysDistinct, Bool.and_eq_true] at h
    exact keysDistinct_of_object? h.1 hv

end Json

/-- The object that a node stands for, by its entries: the document for the root, and for a
    declaration that a member brings the object found under the member's key. -/
inductive StandsFor (root : Declaration) (top : List (String × Value)) :
    List Declaration → Declaration → List (String × Value) → Prop
  | root : StandsFor root top [] root top
  | nested {around : List Declaration} {d n : Declaration} {entries inner : List (String × Value)} {m : Member}
      {v : Value} : StandsFor root top around d entries → m ∈ d.members → m.type.declaration? = some n →
      (m.key, v) ∈ entries → v.object? = some inner → StandsFor root top (d :: around) n inner

variable {limit : Nat} {top : List (String × Value)} {root d : Declaration} {around : List Declaration}

/-- A node is the sample of whatever it stands for, if keys are distinct. -/
theorem standsFor_sampled {entries : List (String × Value)} (hs : Sampled limit top root)
    (distinct : (Value.object top).keysDistinct) (h : StandsFor root top around d entries) :
    Sampled limit entries d ∧ (Value.object entries).keysDistinct := by
  induction h with
  | root => exact ⟨hs, distinct⟩
  | nested _ hm ht hv ho ih =>
    obtain ⟨sampled, distinct'⟩ := ih
    obtain ⟨nodup, below⟩ := Json.keysDistinct_object_iff.mp distinct'
    obtain ⟨e, he, fits⟩ := exists_left_of_mem sampled.fit hm
    -- the entry that the member stands for is the only one under its key
    obtain rfl := List.inj_on_of_nodup_map nodup he hv fits.1.symm
    obtain ⟨inner', some, hs'⟩ := fits.of_declared ht
    rw [some] at ho
    cases ho
    exact ⟨hs', Json.keysDistinct_of_object? (below _ hv) some⟩

theorem node_standsFor (hs : Sampled limit top root) (distinct : (Value.object top).keysDistinct)
    (node : Node root around d) : ∃ entries, StandsFor root top around d entries := by
  induction node with
  | root => exact ⟨top, .root⟩
  | nested _ hn ih =>
    obtain ⟨entries, stands⟩ := ih
    have sampled := (standsFor_sampled hs distinct stands).1
    obtain ⟨m, hm, ht⟩ := List.mem_filterMap.mp hn
    obtain ⟨e, he, fits⟩ := exists_left_of_mem sampled.fit hm
    obtain ⟨inner, some, _⟩ := fits.of_declared ht
    have found : (m.key, e.2) ∈ entries := fits.1 ▸ he
    exact ⟨inner, .nested stands hm ht found some⟩

theorem members_keys {entries : List (String × Value)} (h : Sampled limit entries d) :
    d.members.map (·.key) = entries.map (·.1) := by
  have fit := h.fit
  generalize d.members = members at fit
  clear h
  induction fit with
  | nil => rfl
  | cons fits _ ih => rw [List.map_cons, List.map_cons, fits.1, ih]

/-! ## Samples -/

/-- The declaration of an object with distinct keys accepts the object with every array cut
    to its first element. At every node no key is looked up for two members, and the members
    follow the keys of the object that the node stands for. -/
theorem sample_accepted {name : String} {entries : List (String × Value)}
    (distinct : (Value.object entries).keysDistinct)
    (sampled : (Declaration.ofSample limit name entries).outcome = .ok root) :
    root.type.accepts (Value.object entries).cut ∧
      ∀ around d, Node root around d →
        (d.members.map d.codingKey).Nodup ∧ (∃ inner, StandsFor root entries around d inner) ∧
          ∀ inner, StandsFor root entries around d inner → d.members.map (·.key) = inner.map (·.1) := by
  obtain ⟨_, hs⟩ := ofSample_ok sampled
  refine ⟨?_, fun around d node => ?_⟩
  · obtain ⟨path, members⟩ := hs
    exact accepts_cut (sampleMembers_accept entries members)
  · obtain ⟨inner, stands⟩ := node_standsFor hs distinct node
    obtain ⟨hs', distinct'⟩ := standsFor_sampled hs distinct stands
    refine ⟨?_, ⟨inner, stands⟩, fun other h => members_keys (standsFor_sampled hs distinct h).1⟩
    have own : d.members.map d.codingKey = d.members.map (·.key) :=
      List.map_congr_left fun m hm => Declaration.codingKey_eq_key hm
    rw [own, members_keys hs']
    exact (Json.keysDistinct_object_iff.mp distinct').1

def people : List (String × Value) :=
  [("user name", .string "Ann"), ("userName", .number "1.5"),
   ("lists", .array [.array [.object [("a b", .null), ("n", .number "7")], .bool true], .string "x"])]

def lists : Declaration := ⟨"Lists", [⟨"a b", "aB", .optionalAny⟩, ⟨"n", "n", .int⟩]⟩

def peopleRoot : Declaration :=
  ⟨"People",
    [⟨"user name", "userName", .string⟩, ⟨"userName", "userName2", .float⟩,
     ⟨"lists", "lists", .array (.array lists.type)⟩]⟩

theorem people_accepted :
    (Value.object people).keysDistinct ∧ (Declaration.ofSample 3 "People" people).outcome = .ok peopleRoot ∧
      peopleRoot.type.accepts (Value.object people).cut ∧ Node peopleRoot [peopleRoot] lists ∧
      ∃ inner, StandsFor peopleRoot people [peopleRoot] lists inner ∧ inner.map (·.1) = ["a b", "n"] := by
  have distinct : (Value.object people).keysDistinct := by decide
  have sampled : (Declaration.ofSample 3 "People" people).outcome = .ok peopleRoot := by rfl
  obtain ⟨accepted, nodes⟩ := sample_accepted distinct sampled
  have node : Node peopleRoot [peopleRoot] lists := .nested .root (List.mem_singleton.mpr rfl)
  obtain ⟨_, ⟨inner, stands⟩, follow⟩ := nodes _ _ node
  exact ⟨distinct, sampled, accepted, node, inner, stands, (follow inner stands).symm⟩

end Decodables
