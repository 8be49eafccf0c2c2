/-
  Decodables.Proofs.SharedWarnings — samples that share one list of warnings.

  A survey keeps the warnings of all its samples in one list. The samples may as well have the
  list at hand and add to it while they go: each scope as soon as it has given a name, each
  array before its first element is looked at. What stands in the list then makes no
  difference to a sample, and a sample that fails leaves it as it is by then. So it does not
  matter what was sampled before, nor whether that failed.

  Proved, over every limit and every list of documents:
  - `Follows.bind`: a computation that adds its warnings at once goes on as a report does.
  - `typeOf_follows`, `membersOf_follows`: so the whole recursion adds what it reports, and
    changes nothing else in the list.
  - `declarations_run`: documents that are sampled in turn with one list.
  - `samples_independent`: each sample of a survey is what it is on its own, and the warnings
    are those of the samples one after the other.
-/

import Decodables.Declaration.Survey

namespace Decodables

open Json (Value)

/-- A computation with a list of warnings at hand. A failure leaves the list as it is by then. -/
abbrev Sharing := ExceptT DepthExceeded (StateM (List Warning))

namespace Sharing

/-! ## Samples with a list at hand -/

def push (w : Warning) : Sharing Unit := modify (· ++ [w])

def guardDepth (limit : Nat) (path : Path) : Sharing Unit :=
  if path.depth ≤ limit then pure () else throw ⟨limit, path⟩

def claim (n : Naming) (style : Identifier.Style) (path : Path) : Sharing (String × Naming) := do
  let c := n.scope.claim style n.key n.position path.text
  c.warnings.forM push
  pure (c.name, { n with scope := c.scope })

mutual

def typeOf (limit : Nat) (naming : Naming) (path : Path) : Value → Sharing (MemberType × Naming)
  | .null => pure (.optionalAny, naming)
  | .bool _ => pure (.boolean, naming)
  | .number literal => pure (numberType literal, naming)
  | .string _ => pure (.string, naming)
  | .array items => do
    guardDepth limit path
    let (element, naming) ← elementOf limit naming path items
    pure (.array element, naming)
  | .object entries => do
    guardDepth limit path
    let (name, naming) ← claim naming .pascal path
    let members ← membersOf limit .initial 1 path entries
    pure (.declared name members, naming)

def elementOf (limit : Nat) (naming : Naming) (path : Path) : List Value → Sharing (MemberType × Naming)
  | [] => do
    (arrayWarnings path []).forM push
    pure (.unknown, naming)
  | first :: rest => do
    (arrayWarnings path (first :: rest)).forM push
    typeOf limit naming (path.index 0) first

def membersOf (limit : Nat) (scope : Scope) (position : Nat) (path : Path) :
    List (String × Value) → Sharing (List Member)
  | [] => pure []
  | (key, value) :: rest => do
    let place := path.key key
    let (identifier, naming) ← claim ⟨scope, key, position⟩ .camel place
    let (type, naming) ← typeOf limit naming place value
    let members ← membersOf limit naming.scope (position + 1) path rest
    pure (⟨key, identifier, type⟩ :: members)

end

def declaration (limit : Nat) (name : String) (entries : List (String × Value)) : Sharing Declaration := do
  let members ← membersOf limit .initial 1 .top entries
  pure ⟨name, members⟩

def declarations (limit : Nat) (documents : List (String × List (String × Value))) :
    StateM (List Warning) (List (Except DepthExceeded Declaration)) :=
  documents.mapM fun d => (declaration limit d.1 d.2).run

/-! ## Reports that are followed -/

/-- Whatever is in the list, the computation has the outcome of the report and adds the
    warnings of the report to the list. -/
def Follows {α : Type} (x : Sharing α) (r : Report α) : Prop :=
  ∀ earlier, x.run earlier = (r.outcome, earlier ++ r.warnings)

variable {α β : Type}

theorem Follows.pure (a : α) : Follows (pure a) (pure a) := by
  intro earlier
  show (Except.ok a, earlier) = (Except.ok a, earlier ++ [])
  rw [List.append_nil]

/-- The computation that goes on starts from the list that the first one leaves, and adds to it
    what the report goes on with. After a failure it is not started. -/
theorem Follows.bind {x : Sharing α} {r : Report α} {f : α → Sharing β} {g : α → Report β} (h : Follows x r)
    (next : ∀ a, Follows (f a) (g a)) : Follows (x >>= f) (r >>= g) := by
  intro earlier
  have split : (x >>= f).run earlier =
      match x.run earlier with
      | (.ok a, list) => (f a).run list
      | (.error e, list) => (.error e, list) := by
    show (ExceptT.bindCont f (x.run earlier).1) (x.run earlier).2 = _
    rcases x.run earlier with ⟨outcome | outcome, list⟩ <;> rfl
  rw [split, h earlier]
  obtain ⟨warnings, outcome⟩ := r
  show _ = ((Report.andThen _ g).outcome, earlier ++ (Report.andThen _ g).warnings)
  cases outcome with
  | error e => rfl
  | ok a =>
    dsimp only [Report.andThen]
    rw [next a, List.append_assoc]

theorem follows_push (warnings : List Warning) : Follows (warnings.forM push) (.warn warnings ()) := by
  induction warnings with
  | nil => exact .pure ()
  | cons w rest ih =>
    intro earlier
    have first : ((w :: rest).forM push).run earlier = (rest.forM push).run (earlier ++ [w]) := rfl
    rw [first, ih]
    simp [Report.warn]

theorem follows_guardDepth (limit : Nat) (path : Path) :
    Follows (guardDepth limit path) (Report.guardDepth limit path) := by
  unfold guardDepth Report.guardDepth
  split
  · exact .pure ()
  · intro earlier
    show (Except.error _, earlier) = (Except.error _, earlier ++ [])
    rw [List.append_nil]

theorem follows_claim (n : Naming) (style : Identifier.Style) (path : Path) :
    Follows (claim n style path) (n.claim style path) := by
  have told := (follows_push (n.scope.claim style n.key n.position path.text).warnings).bind fun _ =>
    Follows.pure ((n.scope.claim style n.key n.position path.text).name,
      { n with scope := (n.scope.claim style n.key n.position path.text).scope })
  intro earlier
  rw [claim, told]
  show (_, _ ++ (_ ++ [])) = _
  rw [List.append_nil]
  rfl

/-! ## Samples -/

mutual

theorem typeOf_follows (limit : Nat) (naming : Naming) (path : Path) :
    (v : Value) → Follows (typeOf limit naming path v) (sampleType limit naming path v)
  | .null | .bool _ | .number _ | .string _ => by
    simp only [typeOf, sampleType]
    exact .pure _
  | .array items => by
    simp only [typeOf, sampleType]
    exact (follows_guardDepth limit path).bind fun _ => (elementOf_follows limit naming path items).bind fun _ => .pure _
  | .object entries => by
    simp only [typeOf, sampleType]
    exact (follows_guardDepth limit path).bind fun _ => (follows_claim naming .pascal path).bind fun _ =>
      (membersOf_follows limit .initial 1 path entries).bind fun _ => .pure _

theorem elementOf_follows (limit : Nat) (naming : Naming) (path : Path) :
    (items : List Value) → Follows (elementOf limit naming path items) (sampleElement limit naming path items)
  | [] => by
    simp only [elementOf, sampleElement]
    exact (follows_push _).bind fun _ => .pure _
  | first :: rest => by
    simp only [elementOf, sampleElement]
    exact (follows_push _).bind fun _ => typeOf_follows limit naming (path.index 0) first

theorem membersOf_follows (limit : Nat) (scope : Scope) (position : Nat) (path : Path) :
    (entries : List (String × Value)) →
      Follows (membersOf limit scope position path entries) (sampleMembers limit scope position path entries)
  | [] => by
    simp only [membersOf, sampleMembers]
    exact .pure _
  | (key, value) :: rest => by
    simp only [membersOf, sampleMembers]
    exact (follows_claim _ .camel _).bind fun named => (typeOf_follows limit named.2 _ value).bind fun typed =>
      (membersOf_follows limit typed.2.scope (position + 1) path rest).bind fun _ => .pure _

end

theorem declaration_follows (limit : Nat) (name : String) (entries : List (String × Value)) :
    Follows (declaration limit name entries) (Declaration.ofSample limit name entries) :=
  (membersOf_follows limit .initial 1 .top entries).bind fun _ => .pure _

/-! ## Documents in turn -/

/-- Each document is sampled as it is on its own, and its warnings come behind those that are
    there, be it sampled with success or not. -/
theorem declarations_run (limit : Nat) (documents : List (String × List (String × Value))) (earlier : List Warning) :
    declarations limit documents earlier =
      (documents.map fun d => (Declaration.ofSample limit d.1 d.2).outcome,
        earlier ++ documents.flatMap fun d => (Declaration.ofSample limit d.1 d.2).warnings) := by
  induction documents generalizing earlier with
  | nil =>
    rw [List.flatMap_nil, List.append_nil]
    rfl
  | cons d rest ih =>
    have first := declaration_follows limit d.1 d.2 earlier
    have next : declarations limit (d :: rest) earlier =
        let done := (declaration limit d.1 d.2).run earlier
        let others := declarations limit rest done.2
        (done.1 :: others.1, others.2) := by
      rw [declarations, List.mapM_cons]
      rfl
    rw [next, first]
    dsimp only
    rw [ih, List.map_cons, List.flatMap_cons, List.append_assoc]

end Sharing

/-! ## Surveys -/

namespace Survey

/-- A survey that has samples already goes on as a fresh one would, behind its warnings. -/
theorem samples_eq (s : Survey) (documents : List (String × List (String × Value))) :
    s.samples documents =
      (documents.map fun d => (Declaration.ofSample s.limit d.1 d.2).outcome,
        ⟨s.limit, s.warnings ++ documents.flatMap fun d => (Declaration.ofSample s.limit d.1 d.2).warnings⟩) := by
  induction documents generalizing s with
  | nil => simp [samples]
  | cons d rest ih =>
    simp only [samples, ih, sample, List.map_cons, List.flatMap_cons, List.append_assoc]

def alone (limit : Nat) (d : String × List (String × Value)) : Except DepthExceeded Declaration × List Warning :=
  let done := (start limit).sample d.1 d.2
  (done.1, done.2.warnings)

/-- Each sample of a survey comes to what it does in a survey of its own, and the warnings are
    those of these, one after the other. Sampling with one list at hand, in which anything may
    be already, makes no difference; there a sample that fails has just told what it reports.
    So any sample of a survey, also one that fails, leaves the earlier warnings as they are,
    and those after it are as if it had not been. -/
theorem samples_independent (limit : Nat) (documents : List (String × List (String × Value))) :
    (start limit).samples documents =
        (documents.map fun d => (alone limit d).1, ⟨limit, documents.flatMap fun d => (alone limit d).2⟩) ∧
      (∀ earlier, Sharing.declarations limit documents earlier =
        (((start limit).samples documents).1, earlier ++ ((start limit).samples documents).2.warnings)) ∧
      ∀ before d after,
        ((start limit).samples (before ++ d :: after)).1 =
            ((start limit).samples before).1 ++ (alone limit d).1 :: ((start limit).samples after).1 ∧
          ((start limit).samples (before ++ d :: after)).2.warnings =
            ((start limit).samples before).2.warnings ++ (alone limit d).2 ++ ((start limit).samples after).2.warnings := by
  have each : ∀ documents, (start limit).samples documents =
      (documents.map fun d => (alone limit d).1, ⟨limit, documents.flatMap fun d => (alone limit d).2⟩) :=
    fun documents => (start limit).samples_eq documents
  refine ⟨each documents, fun earlier => ?_, fun before d after => ?_⟩
  · rw [each, Sharing.declarations_run]
    rfl
  · rw [each, each, each]
    simp

/-- The second document is nested too deep behind an array that is reported. -/
def shifts : List (String × List (String × Value)) :=
  [("Early", [("!", .null)]), ("Late", [("log", .array []), ("grid", .array [.array []])]), ("Early", [("!", .null)])]

example : ((start 1).samples shifts).2.warnings =
    [⟨"$[\"!\"]", .emptyIdentifier "!" "field1"⟩, ⟨"$.log", .emptyArray⟩,
     ⟨"$[\"!\"]", .emptyIdentifier "!" "field1"⟩] := by rfl

end Survey

end Decodables
