/-
  Decodables.Proofs.DepthFailure — where a sample fails, and what a greater limit changes.

  A limit is looked at for each container that is visited, before anything else is done with
  it, and for nothing else. So a sample fails at the first container of the visits that is
  deeper than the limit. Since a container is visited before what it holds, it is just one
  deeper. What scalars there are, and what stands behind first elements, does not matter.

  A greater limit lets a sample go on where it would fail, and does nothing else: a sample
  that succeeds is the same under it, and one that fails has reported nothing that it would
  not report under the greater one, in the same order. If it fails then too, it is at the
  same container or at one that is visited later.

  Proved, over every object, name and limit:
  - `sampleType_failure`, `sampleMembers_failure`: a failure is that of the first visit
    beyond the limit.
  - `depth_of_firstBeyond`: that one is one step deeper than the limit.
  - `depthExceeded_iff`: when a sample fails, and where.
  - `Report.Within.bind`, `within_congruence`: a report cut short stays so when it goes on.
  - `limit_only_guards`: what two limits make of one object.
-/

import Decodables.Proofs.Likeness
import Decodables.Proofs.Visits

namespace Decodables

open Json (Value Reaches entryVisits entryVisits_eq mem_visits_iff)

/-! ## Failures -/

namespace Report

variable {α β : Type}

def failure? (r : Report α) : Option DepthExceeded :=
  match r.outcome with
  | .ok _ => none
  | .error e => some e

theorem failure?_eq_some {r : Report α} {e : DepthExceeded} : r.failure? = some e ↔ r.outcome = .error e := by
  unfold failure?
  cases r.outcome <;> simp

theorem pure_failure (a : α) : (pure a : Report α).failure? = none := rfl

theorem warn_failure (warnings : List Warning) (a : α) : (warn warnings a).failure? = none := rfl

/-- The first failure is that of the whole. -/
theorem bind_failure {r : Report α} {f : α → Report β} {failure : Option DepthExceeded}
    (next : ∀ a, (f a).failure? = failure) : (r >>= f).failure? = r.failure?.or failure := by
  obtain ⟨warnings, outcome⟩ := r
  show (andThen _ f).failure? = _
  cases outcome with
  | error e => rfl
  | ok a => exact next a

theorem bind_failure_left {r : Report α} {f : α → Report β} (next : ∀ a, (f a).failure? = none) :
    (r >>= f).failure? = r.failure? := by
  rw [bind_failure next, Option.or_none]

theorem bind_failure_right {r : Report α} {f : α → Report β} {failure : Option DepthExceeded} (never : r.failure? = none)
    (next : ∀ a, (f a).failure? = failure) : (r >>= f).failure? = failure := by
  rw [bind_failure next, never, Option.none_or]

end Report

/-! ## Visits beyond a limit -/

def Json.Value.isContainer : Value → Bool
  | .array _ => true
  | .object _ => true
  | _ => false

def Visit.beyond (limit : Nat) (c : Visit) : Bool := c.value.isContainer && decide (limit < c.path.depth)

theorem Visit.beyond_iff {limit : Nat} {c : Visit} : c.beyond limit ↔ c.value.isContainer ∧ limit < c.path.depth := by
  rw [beyond, Bool.and_eq_true, decide_eq_true_eq]

def firstBeyond (limit : Nat) (visits : List Visit) : Option DepthExceeded :=
  (visits.find? (·.beyond limit)).map fun c => ⟨limit, c.path⟩

variable {limit : Nat}

theorem firstBeyond_cons (c : Visit) (others : List Visit) : firstBeyond limit (c :: others) =
    if c.beyond limit then some ⟨limit, c.path⟩ else firstBeyond limit others := by
  unfold firstBeyond
  by_cases beyond : c.beyond limit
  · rw [List.find?_cons_of_pos beyond, if_pos beyond]
    rfl
  · rw [List.find?_cons_of_neg beyond, if_neg beyond]

theorem firstBeyond_append (before after : List Visit) :
    firstBeyond limit (before ++ after) = (firstBeyond limit before).or (firstBeyond limit after) := by
  unfold firstBeyond
  rw [List.find?_append]
  cases before.find? (·.beyond limit) <;> rfl

/-- A guard for a container fails just if its visit is beyond the limit. -/
theorem guardDepth_failure {path : Path} {v : Value} (container : v.isContainer) (others : List Visit) :
    (Report.guardDepth limit path).failure?.or (firstBeyond limit others) =
      firstBeyond limit (⟨path, v⟩ :: others) := by
  rw [firstBeyond_cons, Report.guardDepth]
  by_cases allowed : path.depth ≤ limit
  · have inside : ¬ Visit.beyond limit ⟨path, v⟩ := fun beyond =>
      absurd allowed (Nat.not_le.mpr (Visit.beyond_iff.mp beyond).2)
    rw [if_pos allowed, if_neg inside]
    rfl
  · have outside : Visit.beyond limit ⟨path, v⟩ := Visit.beyond_iff.mpr ⟨container, Nat.not_le.mp allowed⟩
    rw [if_neg allowed, if_pos outside]
    rfl

/-- A scalar is never beyond a limit. -/
theorem firstBeyond_scalar {path : Path} {v : Value} (scalar : v.isContainer = false) :
    firstBeyond limit [⟨path, v⟩] = none := by
  simp [firstBeyond, Visit.beyond, scalar]

/-! ## Failures of samples -/

mutual

theorem sampleType_failure {naming : Naming} {path : Path} :
    (v : Value) → (sampleType limit naming path v).failure? = firstBeyond limit (v.visits path)
  | .null | .bool _ | .number _ | .string _ => by
    rw [Value.visits, firstBeyond_scalar rfl]
    rfl
  | .array [] => by
    rw [Value.visits, ← guardDepth_failure rfl]
    simp only [sampleType]
    refine Report.bind_failure fun _ => ?_
    exact Report.bind_failure_left fun _ => Report.pure_failure _
  | .array (first :: rest) => by
    have element : (sampleElement limit naming path (first :: rest)).failure? =
        firstBeyond limit (first.visits (path.index 0)) := by
      simp only [sampleElement]
      exact Report.bind_failure_right (Report.warn_failure _ _) fun _ => sampleType_failure first
    rw [Value.visits, ← guardDepth_failure rfl]
    simp only [sampleType]
    refine Report.bind_failure fun _ => ?_
    exact (Report.bind_failure_left fun _ => Report.pure_failure _).trans element
  | .object entries => by
    rw [Value.visits, ← guardDepth_failure rfl]
    simp only [sampleType]
    refine Report.bind_failure fun _ => Report.bind_failure_right (Report.warn_failure _ _) fun _ => ?_
    exact (Report.bind_failure_left fun _ => Report.pure_failure _).trans (sampleMembers_failure entries)

theorem sampleMembers_failure {scope : Scope} {position : Nat} {path : Path} :
    (entries : List (String × Value)) →
      (sampleMembers limit scope position path entries).failure? = firstBeyond limit (entryVisits path entries)
  | [] => rfl
  | (key, value) :: rest => by
    rw [entryVisits, firstBeyond_append, sampleMembers]
    refine Report.bind_failure_right (Report.warn_failure _ _) fun ⟨_, naming⟩ => ?_
    rw [← sampleType_failure value]
    refine Report.bind_failure fun ⟨_, _⟩ => ?_
    exact (Report.bind_failure_left fun _ => Report.pure_failure _).trans (sampleMembers_failure rest)

end

/-- The document itself is at no depth, and so never beyond a limit. -/
theorem ofSample_failure (limit : Nat) (name : String) (entries : List (String × Value)) :
    (Declaration.ofSample limit name entries).failure? = firstBeyond limit ((Value.object entries).visits .top) := by
  have top : (Report.guardDepth limit .top).failure? = none := rfl
  rw [Value.visits, ← guardDepth_failure rfl, top, Option.none_or, ← sampleMembers_failure entries]
  exact Report.bind_failure_left fun _ => Report.pure_failure _

/-! ## The place of a failure -/

/-- Where entries are beyond the limit, some entry's value is. -/
theorem exists_of_entryVisits {path : Path} {entries : List (String × Value)} {e : DepthExceeded}
    (h : firstBeyond limit (entryVisits path entries) = some e) :
    ∃ entry ∈ entries, firstBeyond limit (entry.2.visits (path.key entry.1)) = some e := by
  induction entries with
  | nil => cases h
  | cons entry rest ih =>
    rw [entryVisits, firstBeyond_append] at h
    rcases Option.or_eq_some_iff.mp h with here | ⟨_, later⟩
    · exact ⟨entry, List.mem_cons_self .., here⟩
    · obtain ⟨other, member, there⟩ := ih later
      exact ⟨other, List.mem_cons_of_mem _ member, there⟩

/-- A container is one step too deep itself, or leaves room for what it holds. -/
theorem firstBeyond_container {path : Path} {v : Value} (container : v.isContainer) {others : List Visit}
    {e : DepthExceeded} (above : path.depth ≤ limit + 1) (h : firstBeyond limit (⟨path, v⟩ :: others) = some e) :
    e.path.depth = limit + 1 ∨ path.depth + 1 ≤ limit + 1 ∧ firstBeyond limit others = some e := by
  rw [firstBeyond_cons] at h
  by_cases beyond : Visit.beyond limit ⟨path, v⟩
  · rw [if_pos beyond] at h
    cases h
    exact .inl (Nat.le_antisymm above (Visit.beyond_iff.mp beyond).2)
  · rw [if_neg beyond] at h
    have allowed : ¬ limit < path.depth := fun deep => beyond (Visit.beyond_iff.mpr ⟨container, deep⟩)
    exact .inr ⟨by omega, h⟩

/-- A container is visited before what it holds, so the first one beyond the limit is just one
    step too deep. -/
theorem depth_of_firstBeyond {v : Value} : ∀ {path : Path} {e : DepthExceeded}, path.depth ≤ limit + 1 →
    firstBeyond limit (v.visits path) = some e → e.path.depth = limit + 1 := by
  induction v using Value.induction with
  | step v ih =>
    intro path e above h
    match v, ih with
    | .null, _ | .bool _, _ | .number _, _ | .string _, _ =>
      rw [Value.visits, firstBeyond_scalar rfl] at h
      cases h
    | .array [], _ =>
      rw [Value.visits] at h
      rcases firstBeyond_container rfl above h with here | ⟨_, nowhere⟩
      · exact here
      · cases nowhere
    | .array (first :: rest), ih =>
      rw [Value.visits] at h
      rcases firstBeyond_container rfl above h with here | ⟨room, inside⟩
      · exact here
      · rw [← Path.depth_index path 0] at room
        exact ih first (List.mem_cons_self ..) room inside
    | .object entries, ih =>
      rw [Value.visits] at h
      rcases firstBeyond_container rfl above h with here | ⟨room, inside⟩
      · exact here
      · obtain ⟨entry, member, there⟩ := exists_of_entryVisits inside
        rw [← Path.depth_key path entry.1] at room
        exact ih entry.2 (List.mem_map_of_mem member) room there

/-- The failure is at a container that nothing beyond the limit is visited before. -/
theorem firstBeyond_eq_some_iff {visits : List Visit} {e : DepthExceeded} : firstBeyond limit visits = some e ↔
    e.limit = limit ∧ ∃ before v after, visits = before ++ ⟨e.path, v⟩ :: after ∧ v.isContainer ∧
      limit < e.path.depth ∧ ∀ c ∈ before, c.value.isContainer → c.path.depth ≤ limit := by
  have allowed : ∀ c : Visit, (!c.beyond limit) = true ↔ (c.value.isContainer → c.path.depth ≤ limit) := by
    intro c
    rw [Bool.not_eq_true', Bool.eq_false_iff, ne_eq, Visit.beyond_iff, not_and, Nat.not_lt]
  simp only [firstBeyond, Option.map_eq_some_iff, List.find?_eq_some_iff_append, Visit.beyond_iff, allowed]
  constructor
  · rintro ⟨c, ⟨⟨container, deep⟩, before, after, parts, earlier⟩, rfl⟩
    exact ⟨rfl, before, c.value, after, parts, container, deep, earlier⟩
  · rintro ⟨rfl, before, v, after, parts, container, deep, earlier⟩
    exact ⟨⟨e.path, v⟩, ⟨⟨container, deep⟩, before, after, parts, earlier⟩, rfl⟩

theorem firstBeyond_eq_none_iff {visits : List Visit} :
    firstBeyond limit visits = none ↔ ∀ c ∈ visits, c.value.isContainer → c.path.depth ≤ limit := by
  simp only [firstBeyond, Option.map_eq_none_iff, List.find?_eq_none, Visit.beyond_iff, not_and, Nat.not_lt]

/-- Something is beyond the limit just if steps that are more than it lead to a container. -/
theorem exists_firstBeyond_iff {v : Value} : (∃ e, firstBeyond limit (v.visits .top) = some e) ↔
    ∃ steps w, Reaches v steps w ∧ steps ≠ [] ∧ w.isContainer ∧ limit < steps.length := by
  constructor
  · rintro ⟨e, first⟩
    obtain ⟨-, before, w, after, parts, container, deep, -⟩ := firstBeyond_eq_some_iff.mp first
    have visited : (⟨e.path, w⟩ : Visit) ∈ v.visits .top := by
      rw [parts]
      exact List.mem_append_right _ (List.mem_cons_self ..)
    obtain ⟨steps, reaches, place⟩ := mem_visits_iff.mp visited
    dsimp only at reaches place
    rw [place, Path.depth_follow, Path.depth_top, Nat.zero_add] at deep
    exact ⟨steps, w, reaches, List.ne_nil_of_length_pos (by omega), container, deep⟩
  · rintro ⟨steps, w, reaches, -, container, deep⟩
    have visited : (⟨Path.top.follow steps, w⟩ : Visit) ∈ v.visits .top := mem_visits_iff.mpr ⟨steps, reaches, rfl⟩
    by_contra never
    have allowed : firstBeyond limit (v.visits .top) = none :=
      Option.eq_none_iff_forall_ne_some.mpr fun e first => never ⟨e, first⟩
    have shallow := firstBeyond_eq_none_iff.mp allowed _ visited container
    rw [Path.depth_follow, Path.depth_top, Nat.zero_add] at shallow
    omega

def Json.Value.containers (v : Value) : List Path :=
  ((v.visits .top).filter (·.value.isContainer)).map (·.path)

/-- Nothing but the places of containers tells where a sample fails. -/
theorem firstBeyond_containers (v : Value) : firstBeyond limit (v.visits .top) =
    (v.containers.find? fun place => decide (limit < place.depth)).map fun place => ⟨limit, place⟩ := by
  simp only [Value.containers, List.find?_map, List.find?_filter, firstBeyond, Option.map_map, Visit.beyond,
    Function.comp_def, Bool.decide_and, Bool.decide_eq_true]

/-- A sample fails just if some container that is visited below the document is deeper than
    the limit. It fails at the first of these, which is one step deeper than the limit; and
    objects that have containers at the same places fail alike, whatever scalars they hold and
    whatever stands behind the first elements of their arrays. -/
theorem depthExceeded_iff (limit : Nat) (name : String) (entries : List (String × Value)) :
    ((∃ e, (Declaration.ofSample limit name entries).outcome = .error e) ↔
        ∃ steps v, Reaches (.object entries) steps v ∧ steps ≠ [] ∧ v.isContainer ∧ limit < steps.length) ∧
      (∀ e, (Declaration.ofSample limit name entries).outcome = .error e ↔
        e.limit = limit ∧ e.path.depth = limit + 1 ∧
          ∃ before v after, (Value.object entries).visits .top = before ++ ⟨e.path, v⟩ :: after ∧ v.isContainer ∧
            ∀ c ∈ before, c.value.isContainer → c.path.depth ≤ limit) ∧
      ∀ name' others, (Value.object others).containers = (Value.object entries).containers →
        ∀ e, (Declaration.ofSample limit name' others).outcome = .error e ↔
          (Declaration.ofSample limit name entries).outcome = .error e := by
  have failure : ∀ name entries e, (Declaration.ofSample limit name entries).outcome = .error e ↔
      firstBeyond limit ((Value.object entries).visits .top) = some e := by
    intro name entries e
    rw [← Report.failure?_eq_some, ofSample_failure]
  refine ⟨?_, fun e => ?_, fun name' others same e => ?_⟩
  · simp only [failure]
    exact exists_firstBeyond_iff
  · rw [failure]
    constructor
    · intro first
      obtain ⟨of_limit, before, v, after, parts, container, -, earlier⟩ := firstBeyond_eq_some_iff.mp first
      exact ⟨of_limit, depth_of_firstBeyond (Nat.zero_le _) first, before, v, after, parts, container, earlier⟩
    · rintro ⟨of_limit, depth, before, v, after, parts, container, earlier⟩
      exact firstBeyond_eq_some_iff.mpr ⟨of_limit, before, v, after, parts, container, by omega, earlier⟩
  · rw [failure, failure, firstBeyond_containers, firstBeyond_containers, same]

/-- A document in which the first array that is visited holds a scalar, and one with other
    scalars, and with more behind the first elements. -/
def cabinet : List (String × Value) :=
  [("labels", .array [.string "x"]), ("drawers", .array [.array [.object [("n", .number "1")]]]),
   ("back", .object [("shelf", .object [("box", .array [.array [.null]])])])]

def fullCabinet : List (String × Value) :=
  [("labels", .array [.null, .array [.array [.array []]]]), ("n", .bool true),
   ("drawers", .array [.array [.object [], .object [("a", .object [("b", .array [])])]], .string ""]),
   ("back", .object [("shelf", .object [("box", .array [.array []])])])]

def firstDrawer : Path := (Path.top.key "drawers").index 0

theorem cabinet_too_deep :
    (Value.object fullCabinet).containers = (Value.object cabinet).containers ∧
      (Declaration.ofSample 1 "Cabinet" cabinet).outcome = .error ⟨1, firstDrawer⟩ ∧
      (Declaration.ofSample 1 "FullCabinet" fullCabinet).outcome = .error ⟨1, firstDrawer⟩ ∧
      ∃ steps v, Reaches (.object cabinet) steps v ∧ steps ≠ [] ∧ v.isContainer ∧ 1 < steps.length := by
  have same : (Value.object fullCabinet).containers = (Value.object cabinet).containers := by rfl
  have failed : (Declaration.ofSample 1 "Cabinet" cabinet).outcome = .error ⟨1, firstDrawer⟩ := by rfl
  obtain ⟨deep, _, alike⟩ := depthExceeded_iff 1 "Cabinet" cabinet
  exact ⟨same, failed, (alike "FullCabinet" fullCabinet same _).mpr failed, deep.mp ⟨_, failed⟩⟩

/-! ## Reports cut short -/

namespace Report

variable {α β : Type}

/-- The report is the other one, or a failure with the first of the other's warnings. -/
inductive Within (r s : Report α) : Prop
  | same : r = s → Within r s
  | cut {e : DepthExceeded} : r.outcome = .error e → r.warnings <+: s.warnings → Within r s

namespace Within

theorem refl (r : Report α) : Within r r := .same rfl

theorem warnings_prefix {r s : Report α} (h : Within r s) : r.warnings <+: s.warnings := by
  cases h with
  | same h => exact h ▸ List.prefix_refl _
  | cut _ first => exact first

theorem bind {r s : Report α} {f g : α → Report β} (h : Within r s) (next : ∀ a, Within (f a) (g a)) :
    Within (r >>= f) (s >>= g) := by
  obtain ⟨warnings, outcome⟩ := r
  show Within (andThen _ f) (andThen _ g)
  cases h with
  | same h =>
    subst h
    cases outcome with
    | error e => exact .same rfl
    | ok a =>
      cases next a with
      | same h => exact .same (by simp only [andThen, h])
      | cut failed first => exact .cut failed ((List.prefix_append_right_inj _).mpr first)
  | cut failed first =>
    dsimp only at failed first
    subst failed
    refine .cut rfl (first.trans ?_)
    -- the other report has its own warnings in front, whether it goes on or not
    unfold andThen
    split
    · exact List.prefix_refl _
    · exact List.prefix_append _ _

end Within

end Report

variable {N M : Nat}

theorem within_congruence (le : N ≤ M) : Report.Congruence Report.Within (· = ·) N M := by
  refine ⟨.refl, .bind, fun path => ?_, fun _ agreed => agreed ▸ .refl _⟩
  unfold Report.guardDepth
  by_cases allowed : path.depth ≤ N
  · rw [if_pos allowed, if_pos (Nat.le_trans allowed le)]
    exact .refl _
  · rw [if_neg allowed]
    exact .cut rfl List.nil_prefix

/-- The first visit beyond a greater limit is the first beyond the lesser one, or comes later. -/
theorem firstBeyond_later (le : N ≤ M) {visits : List Visit} {e f : DepthExceeded} (lesser : firstBeyond N visits = some e)
    (greater : firstBeyond M visits = some f) :
    ∃ before v after w, visits = before ++ ⟨e.path, v⟩ :: after ∧ ⟨f.path, w⟩ ∈ (⟨e.path, v⟩ : Visit) :: after := by
  obtain ⟨-, before, v, after, parts, -, -, earlier⟩ := firstBeyond_eq_some_iff.mp lesser
  obtain ⟨-, before', w, after', parts', container, deep, -⟩ := firstBeyond_eq_some_iff.mp greater
  have visited : (⟨f.path, w⟩ : Visit) ∈ before ++ ⟨e.path, v⟩ :: after := by
    rw [← parts, parts']
    exact List.mem_append_right _ (List.mem_cons_self ..)
  refine ⟨before, v, after, w, parts, (List.mem_append.mp visited).resolve_left fun sooner => ?_⟩
  have shallow := earlier _ sooner container
  dsimp only at shallow
  omega

/-- Under a greater limit a sample that succeeds is the same, with the same warnings. One that
    fails has reported what is reported first under the greater limit, be that a success or
    not; and if it fails there too, then at the same container or at one that is visited later. -/
theorem limit_only_guards (le : N ≤ M) (name : String) (entries : List (String × Value)) :
    (∀ root, (Declaration.ofSample N name entries).outcome = .ok root →
        Declaration.ofSample M name entries = Declaration.ofSample N name entries) ∧
      ∀ e, (Declaration.ofSample N name entries).outcome = .error e →
        (Declaration.ofSample N name entries).warnings <+: (Declaration.ofSample M name entries).warnings ∧
          ∀ f, (Declaration.ofSample M name entries).outcome = .error f →
            ∃ before v after w, (Value.object entries).visits .top = before ++ ⟨e.path, v⟩ :: after ∧
              ⟨f.path, w⟩ ∈ (⟨e.path, v⟩ : Visit) :: after := by
  have within : Report.Within (Declaration.ofSample N name entries) (Declaration.ofSample M name entries) :=
    ofSample_related (within_congruence le) (.refl (fun _ => rfl) entries) name
  refine ⟨fun root succeeded => ?_, fun e failed => ⟨within.warnings_prefix, fun f failed' => ?_⟩⟩
  · cases within with
    | same h => exact h.symm
    | cut failed _ =>
      rw [succeeded] at failed
      cases failed
  · rw [← Report.failure?_eq_some, ofSample_failure] at failed failed'
    exact firstBeyond_later le failed failed'

def garage : List (String × Value) :=
  [("", .array []), ("a", .array [.array [.array [.null], .null]]), ("b", .object [("!", .number "1")])]

theorem garage_limits :
    1 ≤ 2 ∧ 3 ≤ 4 ∧ (∃ e f, (Declaration.ofSample 1 "Garage" garage).outcome = .error e ∧
        (Declaration.ofSample 2 "Garage" garage).outcome = .error f ∧
        (Declaration.ofSample 1 "Garage" garage).warnings <+: (Declaration.ofSample 2 "Garage" garage).warnings ∧
        ∃ before v after w, (Value.object garage).visits .top = before ++ ⟨e.path, v⟩ :: after ∧
          ⟨f.path, w⟩ ∈ (⟨e.path, v⟩ : Visit) :: after) ∧
      (∃ root, (Declaration.ofSample 3 "Garage" garage).outcome = .ok root) ∧
      Declaration.ofSample 4 "Garage" garage = Declaration.ofSample 3 "Garage" garage := by
  have failed : (Declaration.ofSample 1 "Garage" garage).outcome =
      .error ⟨1, (Path.top.key "a").index 0⟩ := by rfl
  have failed' : (Declaration.ofSample 2 "Garage" garage).outcome =
      .error ⟨2, ((Path.top.key "a").index 0).index 0⟩ := by rfl
  have succeeded : ∃ root, (Declaration.ofSample 3 "Garage" garage).outcome = .ok root := ⟨_, by rfl⟩
  obtain ⟨-, cut⟩ := limit_only_guards (by decide : 1 ≤ 2) "Garage" garage
  obtain ⟨first, later⟩ := cut _ failed
  obtain ⟨root, same⟩ := succeeded
  have kept := (limit_only_guards (by decide : 3 ≤ 4) "Garage" garage).1 root same
  exact ⟨by decide, by decide, ⟨_, _, failed, failed', first, later _ failed'⟩, ⟨root, same⟩, kept⟩

end Decodables
