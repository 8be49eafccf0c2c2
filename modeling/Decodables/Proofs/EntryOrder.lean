/-
  Decodables.Proofs.EntryOrder — when the order of entries does not matter.

  Names are given first come, first served, and by positions. But as long as nothing is to be
  reported of names, each entry got the name that its key asks for, whatever came before it.
  Then the tree is made key by key, and in another order there is nothing to report either.
  The limit looks at depths alone, and an array is reported for the kinds of its elements. So
  shuffling entries shuffles members and warnings, and does no more.

  Proved, over every object, name and limit under which the sample succeeds:
  - `sampleType_plain`, `sampleMembers_plain`: nothing is reported of names just if what the
    entries of each object ask for is distinct and not reserved; then the tree is the plain one.
  - `Shuffled.plain`, `Shuffled.remarks_perm`, `Shuffled.reordered`: what shuffling keeps.
  - `shuffled_reported`: so a sample of shuffled entries is the shuffled sample, if nothing was
    reported of names.
-/

import Decodables.Proofs.DepthLimit
import Decodables.Proofs.NameRemarks

namespace Decodables

open Identifier (Style derive)
open Json (Kind Value entryVisits entryVisits_eq)

/-! ## Entries in another order -/

namespace Json

mutual

/-- The second value is the first with the entries of its objects in another order, at any depth. -/
inductive Shuffled : Value → Value → Prop
  | same (v : Value) : Shuffled v v
  | array {items items' : List Value} : ShuffledItems items items' → Shuffled (.array items) (.array items')
  | object {entries between entries' : List (String × Value)} : ShuffledEntries entries between →
    between.Perm entries' → Shuffled (.object entries) (.object entries')

inductive ShuffledItems : List Value → List Value → Prop
  | nil : ShuffledItems [] []
  | cons {v w : Value} {items items' : List Value} : Shuffled v w → ShuffledItems items items' →
    ShuffledItems (v :: items) (w :: items')

inductive ShuffledEntries : List (String × Value) → List (String × Value) → Prop
  | nil : ShuffledEntries [] []
  | cons {key : String} {v w : Value} {entries entries' : List (String × Value)} : Shuffled v w →
    ShuffledEntries entries entries' → ShuffledEntries ((key, v) :: entries) ((key, w) :: entries')

end

/-- A relation that holds of equal values, and of containers if it holds of what they hold. -/
structure KeptBySteps (P : Value → Value → Prop) : Prop where
  same (v : Value) : P v v
  array {items items' : List Value} : List.Forall₂ (fun v w => Shuffled v w ∧ P v w) items items' →
    P (.array items) (.array items')
  object {entries between entries' : List (String × Value)} :
    List.Forall₂ (fun e f => e.1 = f.1 ∧ Shuffled e.2 f.2 ∧ P e.2 f.2) entries between → between.Perm entries' →
      P (.object entries) (.object entries')

mutual

/-- Such a relation holds of shuffled values. -/
theorem Shuffled.keeps {P : Value → Value → Prop} (kept : KeptBySteps P) : {v w : Value} → Shuffled v w → P v w
  | _, _, .same v => kept.same v
  | _, _, .array items => kept.array (shuffledItems_keep kept items)
  | _, _, .object entries perm => kept.object (shuffledEntries_keep kept entries) perm

theorem shuffledItems_keep {P : Value → Value → Prop} (kept : KeptBySteps P) :
    {items items' : List Value} → ShuffledItems items items' →
      List.Forall₂ (fun v w => Shuffled v w ∧ P v w) items items'
  | _, _, .nil => .nil
  | _, _, .cons first rest => .cons ⟨first, first.keeps kept⟩ (shuffledItems_keep kept rest)

theorem shuffledEntries_keep {P : Value → Value → Prop} (kept : KeptBySteps P) :
    {entries entries' : List (String × Value)} → ShuffledEntries entries entries' →
      List.Forall₂ (fun e f => e.1 = f.1 ∧ Shuffled e.2 f.2 ∧ P e.2 f.2) entries entries'
  | _, _, .nil => .nil
  | _, _, .cons first rest => .cons ⟨rfl, first, first.keeps kept⟩ (shuffledEntries_keep kept rest)

end

theorem Shuffled.kind_eq {v w : Value} (h : Shuffled v w) : v.kind = w.kind := by
  cases h <;> rfl

end Json

open Json (Shuffled ShuffledEntries KeptBySteps)

/-! ## Names that keys ask for -/

def Telling (style : Style) (key : String) : Prop := derive style key ≠ "" ∧ derive style key ≠ "_"

def plainName (style : Style) (key : String) : String :=
  if startsNumeric (derive style key) then "_" ++ derive style key else derive style key

/-- A scope has nothing to report just if the key tells a name and that is free. -/
theorem claim_silent_iff (scope : Scope) (style : Style) (key : String) (position : Nat) (path : String) :
    (scope.claim style key position path).warnings = [] ↔ Telling style key ∧ plainName style key ∉ scope.taken := by
  have granted : Scope.Granted scope.taken ⟨style, key, position, path⟩ (scope.claim style key position path) :=
    scope.answer_granted ⟨style, key, position, path⟩
  have telling : ¬ Scope.Request.NamesNothing ⟨style, key, position, path⟩ ↔ Telling style key := not_or
  rw [granted.silent_iff, telling]
  refine and_congr_right fun tells => ?_
  rw [Scope.Request.wanted, if_neg (telling.mpr tells)]
  rfl

/-- Then it gives that name. -/
theorem claim_name_of_silent {scope : Scope} {style : Style} {key : String} {position : Nat} {path : String}
    (silent : (scope.claim style key position path).warnings = []) :
    (scope.claim style key position path).name = plainName style key := by
  obtain ⟨tells, free⟩ := (claim_silent_iff ..).mp silent
  have wish : (Wish.ofKey style key position).name = plainName style key := by
    rw [Wish.ofKey_name, if_neg (not_or.mpr tells)]
    rfl
  show scope.choose (Wish.ofKey style key position).name = plainName style key
  rw [wish]
  rcases scope.choose_eq_or (plainName style key) with ⟨_, given⟩ | ⟨taken, _⟩
  · exact given
  · exact absurd taken free

def Scope.holding (s : Scope) (names : List String) : Scope := ⟨names ++ s.taken⟩

theorem issued_singleton_iff {s : Scope} {a : String} : Issued s [a] ↔ a ∉ s.taken := by
  simp [Issued]

theorem issued_append_iff {s : Scope} {as bs : List String} :
    Issued s (as ++ bs) ↔ Issued s as ∧ Issued (s.holding as) bs := by
  simp only [Issued, Scope.holding, List.nodup_append, List.mem_append, not_or]
  constructor
  · intro h
    obtain ⟨⟨first, second, apart⟩, free⟩ := h
    exact ⟨⟨first, fun n hn => free n (.inl hn)⟩, second, fun n hn =>
      ⟨fun again => apart n again n hn rfl, free n (.inr hn)⟩⟩
  · intro h
    obtain ⟨⟨first, free⟩, second, free'⟩ := h
    refine ⟨⟨first, second, fun a ha b hb same => (free' b hb).1 (same ▸ ha)⟩, fun n hn => ?_⟩
    rcases hn with hn | hn
    · exact free n hn
    · exact (free' n hn).2

/-! ## Plain trees -/

def structNames (key : String) (v : Value) : List String :=
  if v.object?.isSome then [plainName .pascal key] else []

def entryNames (e : String × Value) : List String := plainName .camel e.1 :: structNames e.1 e.2

mutual

/-- The names that the entries of each object ask for, wherever members and first elements
    lead, are distinct, and none is reserved; and each key tells them. -/
def Json.Value.Plain : Value → Prop
  | .array (first :: _) => first.Plain
  | .object entries => Issued .initial (entries.flatMap entryNames) ∧ EntriesPlain entries
  | _ => True

def EntriesPlain : List (String × Value) → Prop
  | [] => True
  | (key, v) :: rest =>
    (Telling .camel key ∧ (v.object?.isSome → Telling .pascal key) ∧ v.Plain) ∧ EntriesPlain rest

end

mutual

def Json.Value.plainType (key : String) : Value → MemberType
  | .null => .optionalAny
  | .bool _ => .boolean
  | .number literal => numberType literal
  | .string _ => .string
  | .array [] => .array .unknown
  | .array (first :: _) => .array (first.plainType key)
  | .object entries => .declared (plainName .pascal key) (plainMembers entries)

def plainMembers : List (String × Value) → List Member
  | [] => []
  | (key, v) :: rest => ⟨key, plainName .camel key, v.plainType key⟩ :: plainMembers rest

end

theorem entriesPlain_iff {entries : List (String × Value)} :
    EntriesPlain entries ↔
      ∀ e ∈ entries, Telling .camel e.1 ∧ (e.2.object?.isSome → Telling .pascal e.1) ∧ e.2.Plain := by
  induction entries with
  | nil => simp [EntriesPlain]
  | cons e rest ih => rw [EntriesPlain, ih, List.forall_mem_cons]

def plainMember (e : String × Value) : Member := ⟨e.1, plainName .camel e.1, e.2.plainType e.1⟩

theorem plainMembers_eq (entries : List (String × Value)) : plainMembers entries = entries.map plainMember := by
  induction entries with
  | nil => rfl
  | cons e rest ih => rw [plainMembers, ih, List.map_cons, plainMember]

/-! ## Samples that report no names -/

/-- Nothing is reported of names for a value just if it is plain and the name that its struct
    asks for is told and free; then the type is the plain one, and that name is taken. -/
structure TypedPlainly (naming : Naming) (v : Value) (warnings : List Warning) (t : MemberType) (after : Naming) :
    Prop where
  silent_iff : ofNames warnings = [] ↔
    v.Plain ∧ (v.object?.isSome → Telling .pascal naming.key) ∧ Issued naming.scope (structNames naming.key v)
  type : ofNames warnings = [] → t = v.plainType naming.key
  scope : ofNames warnings = [] → after.scope = naming.scope.holding (structNames naming.key v)

structure SampledPlainly (scope : Scope) (entries : List (String × Value)) (warnings : List Warning)
    (members : List Member) : Prop where
  silent_iff : ofNames warnings = [] ↔ Issued scope (entries.flatMap entryNames) ∧ EntriesPlain entries
  members : ofNames warnings = [] → members = plainMembers entries

/-- A value without an object asks for no name. -/
theorem TypedPlainly.nameless {naming : Naming} {v : Value} {warnings : List Warning} {t : MemberType}
    (none : v.object? = none) (plain : v.Plain) (silent : ofNames warnings = []) (type : t = v.plainType naming.key) :
    TypedPlainly naming v warnings t naming := by
  have nothing : structNames naming.key v = [] := by simp [structNames, none]
  refine ⟨?_, fun _ => type, fun _ => ?_⟩
  · refine iff_of_true silent ⟨plain, by simp [none], ?_⟩
    rw [nothing]
    exact ⟨List.nodup_nil, nofun⟩
  · rw [nothing]
    rfl

/-- An object asks for the name of its struct, and its entries ask a fresh scope for names. -/
theorem SampledPlainly.typed {naming : Naming} {entries : List (String × Value)} {warnings : List Warning}
    {members : List Member} (h : SampledPlainly .initial entries warnings members) (path : Path) :
    let claim := naming.scope.claim .pascal naming.key naming.position path.text
    TypedPlainly naming (.object entries) (claim.warnings ++ warnings) (.declared claim.name members)
      { naming with scope := claim.scope } := by
  intro claim
  have asked : structNames naming.key (.object entries) = [plainName .pascal naming.key] := rfl
  have silent_iff : ofNames (claim.warnings ++ warnings) = [] ↔ claim.warnings = [] ∧ ofNames warnings = [] := by
    rw [ofNames_append, ofNames_claim, List.append_eq_nil_iff]
  refine ⟨?_, fun silent => ?_, fun silent => ?_⟩
  · have telling : ((Value.object entries).object?.isSome = true → Telling .pascal naming.key) ↔
        Telling .pascal naming.key := ⟨fun tells => tells rfl, fun tells _ => tells⟩
    rw [silent_iff, claim_silent_iff, h.silent_iff, asked, issued_singleton_iff, Value.Plain, telling, and_comm]
  · obtain ⟨own, inner⟩ := silent_iff.mp silent
    rw [claim_name_of_silent own, h.members inner]
    rfl
  · rw [asked, ← claim_name_of_silent (silent_iff.mp silent).1]
    rfl

/-- The first entry asks for the name of its member and of its struct, and the others go on
    with the scope after that. -/
theorem SampledPlainly.cons {scope : Scope} {key : String} {value : Value} {rest : List (String × Value)}
    {position : Nat} {path : Path} {type : MemberType} {after : Naming} {warnings warnings' : List Warning}
    {members : List Member} :
    let claim := scope.claim .camel key position path.text
    TypedPlainly ⟨claim.scope, key, position⟩ value warnings type after →
      SampledPlainly after.scope rest warnings' members →
        SampledPlainly scope ((key, value) :: rest) (claim.warnings ++ (warnings ++ warnings'))
          (⟨key, claim.name, type⟩ :: members) := by
  intro claim first others
  have silent_iff : ofNames (claim.warnings ++ (warnings ++ warnings')) = [] ↔
      claim.warnings = [] ∧ ofNames warnings = [] ∧ ofNames warnings' = [] := by
    rw [ofNames_append, ofNames_append, ofNames_claim, List.append_eq_nil_iff, List.append_eq_nil_iff]
  have taken (silent : claim.warnings = []) : claim.scope = scope.holding [plainName .camel key] := by
    rw [← claim_name_of_silent silent]
    rfl
  refine ⟨?_, fun silent => ?_⟩
  · have parts : ((key, value) :: rest).flatMap entryNames =
        [plainName .camel key] ++ (structNames key value ++ rest.flatMap entryNames) := by
      simp [entryNames]
    rw [silent_iff, parts, issued_append_iff, issued_append_iff, issued_singleton_iff, EntriesPlain]
    constructor
    · intro h
      obtain ⟨own, inner, later⟩ := h
      obtain ⟨tells, free⟩ := (claim_silent_iff ..).mp own
      obtain ⟨plain, telling, issued⟩ := first.silent_iff.mp inner
      obtain ⟨issued', plain'⟩ := others.silent_iff.mp later
      rw [first.scope inner] at issued'
      rw [taken own] at issued issued'
      exact ⟨⟨free, issued, issued'⟩, ⟨tells, telling, plain⟩, plain'⟩
    · intro h
      obtain ⟨⟨free, issued, issued'⟩, ⟨tells, telling, plain⟩, plain'⟩ := h
      have own : claim.warnings = [] := (claim_silent_iff ..).mpr ⟨tells, free⟩
      rw [← taken own] at issued issued'
      have inner := first.silent_iff.mpr ⟨plain, telling, issued⟩
      rw [← first.scope inner] at issued'
      exact ⟨own, inner, others.silent_iff.mpr ⟨issued', plain'⟩⟩
  · obtain ⟨own, inner, later⟩ := silent_iff.mp silent
    rw [claim_name_of_silent own, first.type inner, others.members later]
    rfl

variable {limit : Nat}

mutual

theorem sampleType_plain {naming after : Naming} {path : Path} {t : MemberType} :
    (v : Value) → (sampleType limit naming path v).outcome = .ok (t, after) →
      TypedPlainly naming v (sampleType limit naming path v).warnings t after
  | .null | .bool _ | .string _ | .number _ => fun h => by
    cases h
    exact .nameless rfl trivial rfl rfl
  | .array [] => fun h => by
    obtain ⟨rfl, rfl, warned⟩ := sampleType_empty_ok h
    rw [warned]
    exact .nameless rfl trivial (ofNames_arrayWarnings path []) rfl
  | .array (first :: rest) => fun h => by
    obtain ⟨element, typed, rfl, warned⟩ := sampleType_array_ok h
    have silent (ws : List Warning) : ofNames (arrayWarnings path (first :: rest) ++ ws) = ofNames ws := by
      rw [ofNames_append, ofNames_arrayWarnings, List.nil_append]
    obtain ⟨silent_iff, type, scope⟩ := sampleType_plain first typed
    rw [← silent] at silent_iff type scope
    rw [warned]
    exact ⟨silent_iff, fun silent => congrArg MemberType.array (type silent), scope⟩
  | .object entries => fun h => by
    obtain ⟨_, members, rfl, sampled, rfl, rfl, warned⟩ := sampleType_object_ok h
    rw [warned]
    exact (sampleMembers_plain entries sampled).typed path

theorem sampleMembers_plain {scope : Scope} {position : Nat} {path : Path} {members : List Member} :
    (entries : List (String × Value)) → (sampleMembers limit scope position path entries).outcome = .ok members →
      SampledPlainly scope entries (sampleMembers limit scope position path entries).warnings members
  | [] => fun h => by
    cases h
    exact ⟨iff_of_true rfl ⟨⟨List.nodup_nil, nofun⟩, trivial⟩, fun _ => rfl⟩
  | (key, value) :: rest => fun h => by
    obtain ⟨_, type, after, others, rfl, typed, sampled, rfl, warned⟩ := sampleMembers_cons_run h
    rw [warned]
    exact .cons (sampleType_plain value typed) (sampleMembers_plain rest sampled)

end

/-! ## What shuffling keeps -/

section Shuffling

variable {v w : Value}

theorem Json.Shuffled.object?_isSome (h : Shuffled v w) : v.object?.isSome = w.object?.isSome := by
  refine h.keeps (P := fun v w => v.object?.isSome = w.object?.isSome) ⟨fun _ => rfl, ?_, fun _ _ => rfl⟩
  intro items items' related
  cases related with
  | nil => rfl
  | cons first _ => exact first.2

/-- Entries ask for the same names, whatever is shuffled in their values. -/
theorem entryNames_congr {e f : String × Value} (key : e.1 = f.1) (h : Shuffled e.2 f.2) : entryNames e = entryNames f := by
  rw [entryNames, entryNames, structNames, structNames, key, h.object?_isSome]

/-- What is made of each entry is a permutation, if what is made of shuffled entries is. -/
theorem flatMap_perm {α : Type} {g : String × Value → List α} {entries between entries' : List (String × Value)}
    (related : List.Forall₂ (fun e f => (g e).Perm (g f)) entries between) (perm : between.Perm entries') :
    (entries.flatMap g).Perm (entries'.flatMap g) := by
  have inside : (entries.flatMap g).Perm (between.flatMap g) := by
    clear perm
    induction related with
    | nil => exact .refl _
    | cons here _ ih =>
      rw [List.flatMap_cons, List.flatMap_cons]
      exact here.append ih
  exact inside.trans (perm.flatMap_right g)

theorem Json.Shuffled.plain (h : Shuffled v w) : v.Plain → w.Plain := by
  refine h.keeps (P := fun v w => v.Plain → w.Plain) ⟨fun _ plain => plain, ?_, ?_⟩
  · intro items items' related plain
    cases related with
    | nil => trivial
    | cons first _ => exact first.2 plain
  · intro entries between entries' related perm plain
    obtain ⟨issued, plain⟩ := plain
    have names : (entries.flatMap entryNames).Perm (entries'.flatMap entryNames) := by
      refine flatMap_perm (related.imp fun e f same => ?_) perm
      rw [entryNames_congr same.1 same.2.1]
    refine ⟨issued.perm names.symm, entriesPlain_iff.mpr fun f hf => ?_⟩
    obtain ⟨e, he, key, shuffled, keeps⟩ := exists_left_of_mem related (perm.mem_iff.mpr hf)
    obtain ⟨tells, telling, inner⟩ := entriesPlain_iff.mp plain e he
    rw [key] at tells telling
    rw [shuffled.object?_isSome] at telling
    exact ⟨tells, telling, keeps inner⟩

theorem Json.Shuffled.cut_nesting_le (h : Shuffled v w) : w.cut.nesting ≤ v.cut.nesting := by
  refine h.keeps (P := fun v w => w.cut.nesting ≤ v.cut.nesting) ⟨fun _ => Nat.le_refl _, ?_, ?_⟩
  · intro items items' related
    cases related with
    | nil => exact Nat.le_refl _
    | cons first _ =>
      rw [Json.cut_nesting_array, Json.cut_nesting_array]
      exact Nat.succ_le_succ first.2
  · intro entries between entries' related perm
    obtain ⟨n, depth⟩ : ∃ n, (Value.object entries).cut.nesting = n + 1 := ⟨_, rfl⟩
    obtain ⟨_, below⟩ := (Json.cut_nesting_object (m := 0)).mp (Nat.le_of_eq depth)
    rw [depth]
    refine Json.cut_nesting_object.mpr ⟨Nat.zero_le n, fun f hf => ?_⟩
    obtain ⟨e, he, _, _, within⟩ := exists_left_of_mem related (perm.mem_iff.mpr hf)
    exact Nat.le_trans within (below e he)

end Shuffling

/-! ## Warnings of arrays -/

theorem Json.DepartsAt.of_kinds {items items' : List Value} (kinds : items.map Value.kind = items'.map Value.kind)
    {i : Nat} {k : Kind} (h : Json.DepartsAt items i k) : Json.DepartsAt items' i k := by
  have place (j : Nat) : items[j]?.map Value.kind = items'[j]?.map Value.kind := by
    rw [← List.getElem?_map, kinds, List.getElem?_map]
  obtain ⟨first, head, differs, there, before⟩ := h
  obtain ⟨first', head', kind⟩ : ∃ first', items'[0]? = some first' ∧ first'.kind = first.kind := by
    rw [← Option.map_eq_some_iff, ← place 0, head]
    rfl
  refine ⟨first', head', kind ▸ differs, place i ▸ there, fun j hj => ?_⟩
  rw [← place j, before j hj, kind]

/-- An array is reported for the kinds of its elements. -/
theorem arrayWarnings_congr {items items' : List Value} (kinds : items.map Value.kind = items'.map Value.kind)
    (path : Path) : arrayWarnings path items = arrayWarnings path items' := by
  match items, items', kinds with
  | [], [], _ => rfl
  | first :: rest, first' :: rest', kinds =>
    have departs : departure first rest = departure first' rest' :=
      departure_eq_iff.mpr fun i k => ⟨.of_kinds kinds, .of_kinds kinds.symm⟩
    rw [List.map_cons, List.map_cons, List.cons.injEq] at kinds
    rw [arrayWarnings_cons, arrayWarnings_cons, departs, kinds.1]

theorem remarks_flatMap {α : Type} (items : List α) (f : α → List Visit) :
    remarks (items.flatMap f) = items.flatMap fun x => remarks (f x) := by
  induction items with
  | nil => rfl
  | cons x rest ih => rw [List.flatMap_cons, remarks_append, ih, List.flatMap_cons]

/-- Shuffled values bring the same remarks of arrays, but for their order. -/
theorem Json.Shuffled.remarks_perm {v w : Value} (h : Shuffled v w) (path : Path) :
    (remarks (v.visits path)).Perm (remarks (w.visits path)) := by
  refine h.keeps (P := fun v w => ∀ path, (remarks (v.visits path)).Perm (remarks (w.visits path)))
    ⟨fun _ _ => .refl _, ?_, ?_⟩ path
  · intro items items' related path
    have kinds : items.map Value.kind = items'.map Value.kind := by
      rw [← List.forall₂_eq_eq_eq, List.forall₂_map_left_iff, List.forall₂_map_right_iff]
      exact related.imp fun v w same => same.1.kind_eq
    cases related with
    | nil => exact .refl _
    | cons here _ =>
      have parts (v : Value) (vs : List Value) : remarks ((Value.array (v :: vs)).visits path) =
          arrayWarnings path (v :: vs) ++ remarks (v.visits (path.index 0)) := by
        rw [Value.visits, ← List.singleton_append, remarks_append, remarks_array]
      rw [parts, parts, arrayWarnings_congr kinds]
      exact (List.Perm.refl _).append (here.2 _)
  · intro entries between entries' related perm path
    have parts (es : List (String × Value)) : remarks ((Value.object es).visits path) =
        es.flatMap fun e => remarks (e.2.visits (path.key e.1)) := by
      rw [Value.visits, ← List.singleton_append, remarks_append, entryVisits_eq, remarks_flatMap]
      rfl
    rw [parts, parts]
    refine flatMap_perm (related.imp fun e f same => ?_) perm
    rw [same.1]
    exact same.2.2 _

/-! ## Trees in another order -/

structure Row where
  entry : String × Value
  member : Member

mutual

/-- Two values with their types, which are the same but for the order of entries in objects,
    and there the members are in the order of the entries, each with its key, its name and its
    type. -/
inductive Reordered : Value → MemberType → Value → MemberType → Prop
  | same (v : Value) (t : MemberType) : Reordered v t v t
  | array {v w : Value} {vs ws : List Value} {t u : MemberType} : Reordered v t w u →
    Reordered (.array (v :: vs)) (.array t) (.array (w :: ws)) (.array u)
  | object {name : String} {rows between rows' : List Row} : ReorderedRows rows between → between.Perm rows' →
    Reordered (.object (rows.map (·.entry))) (.declared name (rows.map (·.member)))
      (.object (rows'.map (·.entry))) (.declared name (rows'.map (·.member)))

inductive ReorderedRows : List Row → List Row → Prop
  | nil : ReorderedRows [] []
  | cons {key identifier : String} {v w : Value} {t u : MemberType} {rows rows' : List Row} : Reordered v t w u →
    ReorderedRows rows rows' →
    ReorderedRows (⟨(key, v), ⟨key, identifier, t⟩⟩ :: rows) (⟨(key, w), ⟨key, identifier, u⟩⟩ :: rows')

end

/-- Of two structs that are the same so, the name does not matter. -/
theorem Reordered.rename {es fs : List (String × Value)} {n n' : String} {ms ms' : List Member}
    (h : Reordered (.object es) (.declared n ms) (.object fs) (.declared n' ms')) (name : String) :
    Reordered (.object es) (.declared name ms) (.object fs) (.declared name ms') := by
  cases h with
  | same => exact .same _ _
  | object rows perm => exact .object rows perm

/-- Plain types are the same but for the order that shuffling brings. -/
theorem Json.Shuffled.reordered {v w : Value} (h : Shuffled v w) (key : String) :
    Reordered v (v.plainType key) w (w.plainType key) := by
  refine h.keeps (P := fun v w => ∀ key, Reordered v (v.plainType key) w (w.plainType key))
    ⟨fun v key => .same v _, ?_, ?_⟩ key
  · intro items items' related key
    cases related with
    | nil => exact .same _ _
    | cons first _ => exact .array (first.2 key)
  · intro entries between entries' related perm key
    let row (e : String × Value) : Row := ⟨e, plainMember e⟩
    have entry (es : List (String × Value)) : (es.map row).map (·.entry) = es := by simp [row, Function.comp_def]
    have member (es : List (String × Value)) : (es.map row).map (·.member) = plainMembers es := by
      simp [row, plainMembers_eq, Function.comp_def]
    have rows : ReorderedRows (entries.map row) (between.map row) := by
      clear perm
      induction related with
      | nil => exact .nil
      | @cons e f _ _ same _ ih =>
        obtain ⟨_, v⟩ := e
        obtain ⟨_, w⟩ := f
        obtain ⟨rfl, _, inner⟩ := same
        exact .cons (inner _) ih
    have reordered := @Reordered.object (plainName .pascal key) _ _ _ rows (perm.map row)
    rwa [entry, entry, member, member] at reordered

/-! ## Documents -/

section Documents

variable {name : String} {entries entries' : List (String × Value)} {root : Declaration} {warnings : List Warning}

/-- Warnings are all of arrays just if none is of names. -/
theorem ofNames_eq_nil_iff {warnings : List Warning} : ofNames warnings = [] ↔ ∀ w ∈ warnings, w.cause.ofArray := by
  simp [ofNames, List.filter_eq_nil_iff]

theorem ofSample_plain (sampled : Declaration.ofSample limit name entries = ⟨warnings, .ok root⟩) :
    (ofNames warnings = [] ↔ (Value.object entries).Plain) ∧
      (ofNames warnings = [] → root = ⟨name, plainMembers entries⟩) := by
  obtain ⟨members, inner, rfl, rfl⟩ := ofSample_run sampled
  obtain ⟨silent_iff, plain⟩ := sampleMembers_plain entries inner
  exact ⟨silent_iff, fun silent => congrArg (Declaration.mk name) (plain silent)⟩

/-- If a sample succeeds and reports nothing of names, so it is with the entries of its objects
    in any other order, at any depth. Then each object's members are in the order of its entries
    and are otherwise as they were, and so are the warnings of arrays but for their order. -/
theorem shuffled_reported (shuffled : Shuffled (.object entries) (.object entries'))
    (sampled : Declaration.ofSample limit name entries = ⟨warnings, .ok root⟩)
    (silent : ∀ w ∈ warnings, w.cause.ofArray) :
    ∃ warnings' root', Declaration.ofSample limit name entries' = ⟨warnings', .ok root'⟩ ∧
      (∀ w ∈ warnings', w.cause.ofArray) ∧ root'.name = root.name ∧
      Reordered (.object entries) root.type (.object entries') root'.type ∧ warnings'.Perm warnings := by
  have allowed : (Value.object entries').cut.nesting ≤ limit + 1 :=
    Nat.le_trans shuffled.cut_nesting_le ((ofSample_ok_iff name).mp ⟨root, by rw [sampled]⟩)
  obtain ⟨root', outcome⟩ := (ofSample_ok_iff name).mpr allowed
  obtain ⟨warnings', sampled'⟩ : ∃ warnings', Declaration.ofSample limit name entries' = ⟨warnings', .ok root'⟩ :=
    ⟨_, by rw [← outcome]⟩
  obtain ⟨plain_iff, tree⟩ := ofSample_plain sampled
  obtain ⟨plain_iff', tree'⟩ := ofSample_plain sampled'
  -- the entries are plain in the one order, so they are in the other
  have unnamed : ofNames warnings = [] := ofNames_eq_nil_iff.mpr silent
  have plain : (Value.object entries').Plain := shuffled.plain (plain_iff.mp unnamed)
  have unnamed' : ofNames warnings' = [] := plain_iff'.mpr plain
  have silent' := ofNames_eq_nil_iff.mp unnamed'
  refine ⟨warnings', root', sampled', silent', ?_, ?_, ?_⟩
  · rw [tree unnamed, tree' unnamed']
  · rw [tree unnamed, tree' unnamed']
    exact (shuffled.reordered "").rename name
  · have reported := (ofSample_accounted sampled).reported
    have reported' := (ofSample_accounted sampled').reported
    rw [List.filter_eq_self.mpr silent] at reported
    rw [List.filter_eq_self.mpr silent'] at reported'
    rw [reported, reported']
    exact (shuffled.remarks_perm .top).symm

end Documents

def shop : List (String × Value) :=
  [("shop name", .string "x"),
   ("items", .array [.object [("id", .number "1"), ("tags", .array [])], .object [("a", .null), ("b", .null)]]),
   ("owner", .object [("pets", .array [.null]), ("age", .number "2.5")])]

def otherShop : List (String × Value) :=
  [("owner", .object [("age", .number "2.5"), ("pets", .array [.null])]),
   ("items", .array [.object [("tags", .array []), ("id", .number "1")], .object [("b", .null), ("a", .null)]]),
   ("shop name", .string "x")]

def shopWarnings : List Warning := [⟨"$.items[0].tags", .emptyArray⟩, ⟨"$.owner.pets", .nullFirstElement⟩]

theorem shop_shuffled :
    Shuffled (.object shop) (.object otherShop) ∧
      ∃ root, Declaration.ofSample 3 "Shop" shop = ⟨shopWarnings, .ok root⟩ ∧ (∀ w ∈ shopWarnings, w.cause.ofArray) ∧
        ∃ warnings' root', Declaration.ofSample 3 "Shop" otherShop = ⟨warnings', .ok root'⟩ ∧
          Reordered (.object shop) root.type (.object otherShop) root'.type ∧ warnings'.Perm shopWarnings := by
  have swapped (e f : String × Value) : Shuffled (.object [e, f]) (.object [f, e]) :=
    .object (.cons (.same _) (.cons (.same _) .nil)) (.swap f e [])
  have shuffled : Shuffled (.object shop) (.object otherShop) := by
    refine .object (.cons (.same _) (.cons (.array ?_) (.cons (swapped _ _) .nil))) (List.reverse_perm _).symm
    exact .cons (swapped _ _) (.cons (swapped _ _) .nil)
  obtain ⟨root, sampled⟩ : ∃ root, Declaration.ofSample 3 "Shop" shop = ⟨shopWarnings, .ok root⟩ := ⟨_, by rfl⟩
  have silent : ∀ w ∈ shopWarnings, w.cause.ofArray := by decide
  obtain ⟨warnings', root', sampled', _, _, reordered, perm⟩ := shuffled_reported shuffled sampled silent
  exact ⟨shuffled, root, sampled, silent, warnings', root', sampled', reordered, perm⟩

end Decodables
