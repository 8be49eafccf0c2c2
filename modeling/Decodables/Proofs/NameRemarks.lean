/-
  Decodables.Proofs.NameRemarks — what a sample reports of names, and the names in its tree.

  Each name in a tree was given for a request of an entry: that of a member at the entry's
  path, that of a struct at the path of its object. A name may be reported twice: for a name by
  the position, and for a number behind the wanted name. Two requests at one path are of one
  entry, and get two names of two styles. So it is clear from a warning to which of the names
  it belongs.

  Proved, over every object, name and limit under which the sample succeeds:
  - `sampleType_named`, `sampleMembers_named`: the warnings of names are those of the names in
    the tree, in order.
  - `count_remarks`: among names that are apart, what is reported of one is reported of no other.
  - `titles_apart`: the names in a tree with distinct keys and names are apart.
-/

import Decodables.Proofs.ArrayRemarks
import Decodables.Proofs.PathReading

namespace Decodables

open Json (Value)
open Scope (Request)

/-! ## Names and requests -/

structure Title where
  request : Request
  name : String
  deriving DecidableEq

namespace Title

def renamed (t : Title) : Warning := ⟨t.request.path, .collision t.request.key t.request.wanted t.name⟩

def mended (t : Title) : Warning :=
  ⟨t.request.path, .emptyIdentifier t.request.key (fallbackName t.request.style t.request.position)⟩

def remarks (t : Title) : List Warning :=
  (if t.request.NamesNothing then [t.mended] else []) ++ (if t.name = t.request.wanted then [] else [t.renamed])

theorem mem_remarks {t : Title} {w : Warning} :
    w ∈ t.remarks ↔ (t.request.NamesNothing ∧ w = t.mended) ∨ (t.name ≠ t.request.wanted ∧ w = t.renamed) := by
  unfold remarks
  split <;> split <;> simp [*]

theorem renamed_ne_mended (t u : Title) : t.renamed ≠ u.mended := by simp [renamed, mended]

theorem count_renamed (t : Title) : t.remarks.count t.renamed = if t.name = t.request.wanted then 0 else 1 := by
  have other := (t.renamed_ne_mended t).symm
  unfold remarks
  split <;> split <;> simp [other]

theorem count_mended (t : Title) : t.remarks.count t.mended = if t.request.NamesNothing then 1 else 0 := by
  have other := t.renamed_ne_mended t
  unfold remarks
  split <;> split <;> simp [other]

/-- The names are reported at two paths, or they are two names of two styles. -/
def Apart (t u : Title) : Prop :=
  t.request.path ≠ u.request.path ∨ (t.request.style ≠ u.request.style ∧ t.name ≠ u.name)

theorem Apart.symm {t u : Title} (h : t.Apart u) : u.Apart t := h.imp Ne.symm fun h => ⟨h.1.symm, h.2.symm⟩

theorem Apart.not_renamed {t u : Title} (h : t.Apart u) : t.renamed ∉ u.remarks := by
  intro hw
  rcases mem_remarks.mp hw with ⟨_, same⟩ | ⟨_, same⟩
  · exact t.renamed_ne_mended u same
  · simp only [renamed, Warning.mk.injEq, Cause.collision.injEq] at same
    rcases h with path | ⟨_, name⟩
    · exact path same.1
    · exact name same.2.2.2

theorem Apart.not_mended {t u : Title} (h : t.Apart u) : t.mended ∉ u.remarks := by
  have styles : ∀ n n' : Nat, fallbackName .camel n ≠ fallbackName .pascal n' := by
    intro n n' same
    have heads := congrArg (fun s => s.toList.head?) same
    simp [fallbackName] at heads
  intro hw
  rcases mem_remarks.mp hw with ⟨_, same⟩ | ⟨_, same⟩
  · simp only [mended, Warning.mk.injEq, Cause.emptyIdentifier.injEq] at same
    rcases h with path | ⟨style, _⟩
    · exact path same.1
    · cases ht : t.request.style <;> cases hu : u.request.style <;> rw [ht, hu] at same style
      · exact style rfl
      · exact styles _ _ same.2.2
      · exact styles _ _ same.2.2.symm
      · exact style rfl
  · exact u.renamed_ne_mended t same.symm

theorem remarks_no_array (t : Title) : ∀ w ∈ t.remarks, w.cause.ofArray = false := by
  intro w hw
  rcases mem_remarks.mp hw with ⟨_, rfl⟩ | ⟨_, rfl⟩
  · rfl
  · rfl

/-- Among names that are apart from each other, what can be reported of one is reported of no
    other. -/
theorem count_remarks {titles : List Title} (apart : titles.Pairwise Apart) {t : Title} (ht : t ∈ titles) {w : Warning}
    (own : ∀ u, t.Apart u → w ∉ u.remarks) : (titles.flatMap remarks).count w = t.remarks.count w := by
  obtain ⟨before, after, rfl⟩ := List.append_of_mem ht
  obtain ⟨-, behind, across⟩ := List.pairwise_append.mp apart
  have none_before : w ∉ before.flatMap remarks := by
    intro hw
    obtain ⟨u, hu, hw⟩ := List.mem_flatMap.mp hw
    exact own u (across u hu t (List.mem_cons_self ..)).symm hw
  have none_after : w ∉ after.flatMap remarks := by
    intro hw
    obtain ⟨u, hu, hw⟩ := List.mem_flatMap.mp hw
    exact own u (List.rel_of_pairwise_cons behind hu) hw
  rw [List.flatMap_append, List.flatMap_cons, List.count_append, List.count_append, List.count_eq_zero_of_not_mem none_before,
    List.count_eq_zero_of_not_mem none_after, Nat.zero_add, Nat.add_zero]

end Title

/-! ## The names in a tree -/

mutual

def MemberType.titles (path : Path) (key : String) (position : Nat) : MemberType → List Title
  | .declared name members => ⟨⟨.pascal, key, position, path.text⟩, name⟩ :: memberTitles path 1 members
  | .array element => element.titles (path.index 0) key position
  | _ => []

def memberTitles (path : Path) (position : Nat) : List Member → List Title
  | [] => []
  | ⟨key, identifier, type⟩ :: rest =>
    ⟨⟨.camel, key, position, (path.key key).text⟩, identifier⟩ ::
      (type.titles (path.key key) key position ++ memberTitles path (position + 1) rest)

end

theorem numberType_titles (literal : String) (path : Path) (key : String) (position : Nat) :
    (numberType literal).titles path key position = [] := by
  rcases numberType_eq_or literal with int | float
  · rw [int]
    rfl
  · rw [float]
    rfl

/-! ## Warnings of names -/

def ofNames (warnings : List Warning) : List Warning := warnings.filter (!·.cause.ofArray)

theorem ofNames_append (ws ws' : List Warning) : ofNames (ws ++ ws') = ofNames ws ++ ofNames ws' :=
  List.filter_append ..

theorem ofNames_arrayWarnings (path : Path) (items : List Value) : ofNames (arrayWarnings path items) = [] := by
  refine List.filter_eq_nil_iff.mpr fun w hw => ?_
  simp [(arrayWarnings_remarks path items).ofArray w hw]

/-- A scope reports just what there is to report of the name it gives. -/
theorem claim_warnings (scope : Scope) (style : Identifier.Style) (key : String) (position : Nat) (path : String) :
    (scope.claim style key position path).warnings =
      (Title.mk ⟨style, key, position, path⟩ (scope.choose (Wish.ofKey style key position).name)).remarks := by
  have answered := scope.answer_warnings ⟨style, key, position, path⟩
  rw [Scope.answer] at answered
  rw [answered, Title.remarks]
  refine congrArg₂ (· ++ ·) ?_ rfl
  split
  · rename_i nothing
    rw [Request.wanted, if_pos nothing]
    rfl
  · rfl

/-- All of that is of a name. -/
theorem ofNames_claim (scope : Scope) (style : Identifier.Style) (key : String) (position : Nat) (path : String) :
    ofNames (scope.claim style key position path).warnings = (scope.claim style key position path).warnings := by
  refine List.filter_eq_self.mpr fun w hw => ?_
  rw [claim_warnings] at hw
  simp [Title.remarks_no_array _ w hw]

variable {limit : Nat}

mutual

theorem sampleType_named {naming after : Naming} {path : Path} {t : MemberType} :
    (v : Value) → (sampleType limit naming path v).outcome = .ok (t, after) →
      ofNames (sampleType limit naming path v).warnings = (t.titles path naming.key naming.position).flatMap Title.remarks
  | .null | .bool _ | .string _ => fun h => by
    cases h
    rfl
  | .number literal => fun h => by
    cases h
    rw [numberType_titles]
    rfl
  | .array [] => fun h => by
    obtain ⟨rfl, _, warned⟩ := sampleType_empty_ok h
    rw [warned, ofNames_arrayWarnings]
    rfl
  | .array (first :: rest) => fun h => by
    obtain ⟨element, typed, rfl, warned⟩ := sampleType_array_ok h
    rw [warned, ofNames_append, ofNames_arrayWarnings, List.nil_append]
    exact sampleType_named first typed
  | .object entries => fun h => by
    obtain ⟨_, members, rfl, sampled, rfl, _, warned⟩ := sampleType_object_ok h
    rw [warned, ofNames_append, ofNames_claim, claim_warnings, sampleMembers_named entries sampled]
    rfl

theorem sampleMembers_named {scope : Scope} {position : Nat} {path : Path} {members : List Member} :
    (entries : List (String × Value)) → (sampleMembers limit scope position path entries).outcome = .ok members →
      ofNames (sampleMembers limit scope position path entries).warnings =
        (memberTitles path position members).flatMap Title.remarks
  | [] => fun h => by
    cases h
    rfl
  | (key, value) :: rest => fun h => by
    obtain ⟨_, type, after, others, rfl, typed, sampled, rfl, warned⟩ := sampleMembers_cons_run h
    rw [warned, ofNames_append, ofNames_append, ofNames_claim, claim_warnings, sampleType_named value typed,
      sampleMembers_named rest sampled, memberTitles, List.flatMap_cons, List.flatMap_append]
    rfl

end

/-! ## Names apart -/

/-- The place of the first element in that many arrays, each the first element of another. -/
def Path.inside (p : Path) (arrays : Nat) : Path := p.follow (List.replicate arrays (.index 0))

theorem Path.follow_follow (p : Path) (s t : List Step) : (p.follow s).follow t = p.follow (s ++ t) := by
  simp [follow]

theorem Path.inside_succ (p : Path) (arrays : Nat) : p.inside (arrays + 1) = (p.index 0).inside arrays := by
  rw [inside, List.replicate_succ, ← index_follow, inside]

def MemberType.brackets : MemberType → Nat
  | .array element => element.brackets + 1
  | _ => 0

theorem MemberType.titles_of_none {t : MemberType} (h : t.declaration? = none) (path : Path) (key : String)
    (position : Nat) : t.titles path key position = [] := by
  match t with
  | .array element => exact element.titles_of_none h (path.index 0) key position
  | .string | .int | .float | .boolean | .optionalAny | .unknown => rfl

/-- A type that brings a declaration brings its name, and the names in it. -/
theorem MemberType.titles_of_some {t : MemberType} {e : Declaration} (h : t.declaration? = some e) (path : Path)
    (key : String) (position : Nat) :
    t.titles path key position =
      ⟨⟨.pascal, key, position, (path.inside t.brackets).text⟩, e.name⟩ ::
        memberTitles (path.inside t.brackets) 1 e.members := by
  match t with
  | .array element => rw [titles, element.titles_of_some h, brackets, Path.inside_succ]
  | .declared name members =>
    cases h
    have here : path.inside 0 = path := path.follow_nil
    simp only [titles, brackets, here]

mutual

/-- Names that a type brings are reported at its place, or further on. -/
theorem titles_through {path : Path} {key : String} {position : Nat} {u : Title} :
    (t : MemberType) → u ∈ t.titles path key position → ∃ steps, u.request.path = (path.follow steps).text
  | .array element => fun h => by
    obtain ⟨steps, further⟩ := titles_through element h
    exact ⟨.index 0 :: steps, by rw [further, Path.index_follow]⟩
  | .declared name members => fun h => by
    rw [MemberType.titles] at h
    rcases List.mem_cons.mp h with rfl | h
    · exact ⟨[], by rw [Path.follow_nil]⟩
    · obtain ⟨m, _, steps, further⟩ := memberTitles_through members h
      exact ⟨.key m.key :: steps, further⟩
  | .string | .int | .float | .boolean | .optionalAny | .unknown => nofun

/-- Names that members bring are reported through their keys. -/
theorem memberTitles_through {path : Path} {position : Nat} {u : Title} :
    (members : List Member) → u ∈ memberTitles path position members →
      ∃ m ∈ members, ∃ steps, u.request.path = (path.follow (.key m.key :: steps)).text
  | [] => nofun
  | ⟨key, identifier, type⟩ :: rest => fun h => by
    rw [memberTitles] at h
    rcases List.mem_cons.mp h with rfl | h
    · refine ⟨_, List.mem_cons_self .., [], ?_⟩
      rw [← Path.key_follow, Path.follow_nil]
    rcases List.mem_append.mp h with inside | later
    · obtain ⟨steps, further⟩ := titles_through type inside
      exact ⟨_, List.mem_cons_self .., steps, by rw [further, Path.key_follow]⟩
    · obtain ⟨m, hm, through⟩ := memberTitles_through rest later
      exact ⟨m, List.mem_cons_of_mem _ hm, through⟩

end

/-- What is reported at the ends of two ways from one place is apart. -/
theorem apart_of_steps {path : Path} {s t : List Step} {u w : Title} (hu : u.request.path = (path.follow s).text)
    (hw : w.request.path = (path.follow t).text) (differ : s ≠ t) : u.Apart w := by
  refine .inl fun same => differ ?_
  rwa [hu, hw, Path.follow_text_inj] at same

/-- A member and the declaration it brings have names apart. -/
theorem member_titles_apart {m : Member}
    (inner : ∀ e, m.type.declaration? = some e →
      m.identifier ≠ e.name ∧ ∀ path, (memberTitles path 1 e.members).Pairwise Title.Apart)
    (path : Path) (position : Nat) :
    (Title.mk ⟨.camel, m.key, position, path.text⟩ m.identifier :: m.type.titles path m.key position).Pairwise
      Title.Apart := by
  cases brought : m.type.declaration? with
  | none =>
    rw [MemberType.titles_of_none brought]
    exact List.pairwise_singleton ..
  | some e =>
    obtain ⟨names, below⟩ := inner e brought
    rw [MemberType.titles_of_some brought]
    refine .cons ?_ (.cons ?_ (below _))
    · intro u hu
      rcases List.mem_cons.mp hu with rfl | hu
      · exact .inr ⟨Identifier.Style.noConfusion, names⟩
      · obtain ⟨m', _, steps, further⟩ := memberTitles_through e.members hu
        have here : path.text = (path.follow []).text := by rw [Path.follow_nil]
        rw [Path.inside, Path.follow_follow] at further
        exact apart_of_steps here further (by simp)
    · intro u hu
      obtain ⟨m', _, steps, further⟩ := memberTitles_through e.members hu
      have here : (path.inside m.type.brackets).text = ((path.inside m.type.brackets).follow []).text := by
        rw [Path.follow_nil]
      exact apart_of_steps here further (by simp)

theorem memberTitles_apart {members : List Member} (keys : (members.map (·.key)).Nodup)
    (inner : ∀ m ∈ members, ∀ e, m.type.declaration? = some e →
      m.identifier ≠ e.name ∧ ∀ path, (memberTitles path 1 e.members).Pairwise Title.Apart)
    (path : Path) (position : Nat) : (memberTitles path position members).Pairwise Title.Apart := by
  induction members generalizing position with
  | nil => exact .nil
  | cons m rest ih =>
    obtain ⟨here, others⟩ := List.forall_mem_cons.mp inner
    rw [List.map_cons, List.nodup_cons] at keys
    rw [memberTitles, ← List.cons_append, List.pairwise_append]
    refine ⟨member_titles_apart here (path.key m.key) position, ih keys.2 others (position + 1), ?_⟩
    intro u hu w hw
    have through : ∃ steps, u.request.path = (path.follow (.key m.key :: steps)).text := by
      rcases List.mem_cons.mp hu with rfl | hu
      · exact ⟨[], by rw [← Path.key_follow, Path.follow_nil]⟩
      · obtain ⟨steps, further⟩ := titles_through m.type hu
        exact ⟨steps, by rw [further, Path.key_follow]⟩
    obtain ⟨steps, first⟩ := through
    obtain ⟨m', hm', steps', later⟩ := memberTitles_through rest hw
    -- the ways part at the keys
    refine apart_of_steps first later fun same => keys.1 ?_
    rw [List.cons.injEq, Step.key.injEq] at same
    exact same.1 ▸ List.mem_map_of_mem hm'

theorem titles_apart {d : Declaration} (distinct : d.AtEveryNode Declaration.Distinct)
    (keyed : d.AtEveryNode fun e => (e.members.map (·.key)).Nodup) (path : Path) :
    (memberTitles path 1 d.members).Pairwise Title.Apart := by
  induction d using Declaration.induction generalizing path with
  | step d ih =>
    refine memberTitles_apart keyed.root (fun m hm e brought => ?_) path 1
    have he : e ∈ d.nested := List.mem_filterMap.mpr ⟨m, hm, brought⟩
    refine ⟨?_, ih e he (distinct.nested he) (keyed.nested he)⟩
    exact (List.nodup_append.mp distinct.root.nodup).2.2 _ (List.mem_map_of_mem hm) _ (List.mem_map_of_mem he)

end Decodables
