/-
  Decodables.Proofs.Sampling — what a sample that succeeds gives.

  Only first elements of arrays are looked at, so a value brings a declaration if it is
  an object, or an array whose first element brings one. The declaration is a sample of
  its own: its names start from a fresh scope.

  Proved, over every object, limit and scope:
  - `sampleType_ok`: what a value's type is as far as declarations go, and what it takes
    from the scope of the declaration it belongs to.
  - `sampleMembers_cons_ok`: what the first entry of an object gives, and what the others
    start from.
  - `sampleMembers_fit`: the members stand for the entries, one for one and in order.
  - `node_sampled`, `visited_sampled`: the nodes of the tree are samples of the objects that
    are visited, and every object that is visited has a node.
  - `ofDocument_ok_iff`: a conversion is the source of a sample.
-/

import Mathlib.Data.List.Forall2
import Decodables.Conversion
import Decodables.Proofs.DeclarationTree

namespace Decodables

open Json (Value)

/-! ## Reports that have an outcome -/

namespace Report

variable {α β : Type}

@[simp] theorem bind_ok {r : Report α} {f : α → Report β} {b : β} :
    (r >>= f).outcome = .ok b ↔ ∃ a, r.outcome = .ok a ∧ (f a).outcome = .ok b := by
  show (r.andThen f).outcome = .ok b ↔ _
  unfold andThen
  cases r.outcome with
  | error e => simp
  | ok a => simp

@[simp] theorem pure_outcome (a : α) : (pure a : Report α).outcome = .ok a := rfl

@[simp] theorem warn_outcome (warnings : List Warning) (a : α) : (warn warnings a).outcome = .ok a := rfl

end Report

/-! ## Values -/

/-- The entries of the object that a value is, or that stands first in it through arrays. -/
def Json.Value.object? : Value → Option (List (String × Value))
  | .object entries => some entries
  | .array (first :: _) => first.object?
  | _ => none

def Naming.typeName (n : Naming) : String := n.scope.choose (Wish.ofKey .pascal n.key n.position).name

def Naming.withType (n : Naming) : Naming := { n with scope := n.scope.take n.typeName }

/-- The declaration's members are what an object with the entries gives on its own. -/
def Sampled (limit : Nat) (entries : List (String × Value)) (d : Declaration) : Prop :=
  ∃ path, (sampleMembers limit .initial 1 path entries).outcome = .ok d.members

/-- What a value's type is as far as declarations go: it brings none and takes no name, or
    it brings the sample of the object in it, under the name the naming gives next. -/
inductive Typed (limit : Nat) (naming : Naming) (v : Value) (t : MemberType) : Naming → Prop
  | plain : v.object? = none → t.declaration? = none → Typed limit naming v t naming
  | declared {entries : List (String × Value)} {d : Declaration} :
    v.object? = some entries → t.declaration? = some d → d.name = naming.typeName → Sampled limit entries d →
    Typed limit naming v t naming.withType

theorem sampleType_ok {limit : Nat} {naming after : Naming} {path : Path} {v : Value} {t : MemberType}
    (h : (sampleType limit naming path v).outcome = .ok (t, after)) : Typed limit naming v t after := by
  match v with
  | .null | .bool _ | .string _ => simp only [sampleType, Report.pure_outcome] at h; cases h; exact .plain rfl rfl
  | .number literal =>
    simp only [sampleType, Report.pure_outcome] at h
    cases h
    refine .plain rfl ?_
    unfold numberType
    split <;> rfl
  | .array [] =>
    simp only [sampleType, sampleElement, Report.bind_ok, Report.warn_outcome, Report.pure_outcome] at h
    obtain ⟨_, _, _, h₁, h₂⟩ := h
    cases h₁; cases h₂
    exact .plain rfl rfl
  | .array (first :: rest) =>
    simp only [sampleType, sampleElement, Report.bind_ok, Report.warn_outcome, Report.pure_outcome] at h
    obtain ⟨_, _, ⟨element, _⟩, ⟨_, _, h₁⟩, h₂⟩ := h
    cases h₂
    -- brackets neither bring a declaration nor hide one
    cases sampleType_ok h₁ with
    | plain hv ht => exact .plain hv ht
    | declared hv ht hn hd => exact .declared hv ht hn hd
  | .object entries =>
    simp only [sampleType, Naming.claim, Report.bind_ok, Report.warn_outcome, Report.pure_outcome] at h
    obtain ⟨_, _, _, h₁, members, hm, h₂⟩ := h
    cases h₁; cases h₂
    exact .declared rfl rfl rfl ⟨path, hm⟩

/-! ## Members -/

/-- The first entry gives the first member, named before its value is looked at; the others
    go on with the scope after that. -/
theorem sampleMembers_cons_outcome {limit : Nat} {scope : Scope} {position : Nat} {path : Path} {key : String}
    {value : Value} {rest : List (String × Value)} {members : List Member}
    (h : (sampleMembers limit scope position path ((key, value) :: rest)).outcome = .ok members) :
    ∃ identifier type others after, identifier = scope.choose (Wish.ofKey .camel key position).name ∧
      (sampleType limit ⟨scope.take identifier, key, position⟩ (path.key key) value).outcome = .ok (type, after) ∧
      (sampleMembers limit after.scope (position + 1) path rest).outcome = .ok others ∧
      members = ⟨key, identifier, type⟩ :: others := by
  simp only [sampleMembers, Naming.claim, Report.bind_ok, Report.warn_outcome, Report.pure_outcome] at h
  obtain ⟨_, h₁, ⟨type, after⟩, ht, others, ho, h₂⟩ := h
  cases h₁; cases h₂
  exact ⟨_, type, others, after, rfl, ht, ho, rfl⟩

/-- The first member's type is what its value is typed as, which may take a name too. -/
theorem sampleMembers_cons_ok {limit : Nat} {scope : Scope} {position : Nat} {path : Path} {key : String}
    {value : Value} {rest : List (String × Value)} {members : List Member}
    (h : (sampleMembers limit scope position path ((key, value) :: rest)).outcome = .ok members) :
    ∃ identifier type others after, identifier = scope.choose (Wish.ofKey .camel key position).name ∧
      Typed limit ⟨scope.take identifier, key, position⟩ value type after ∧
      (sampleMembers limit after.scope (position + 1) path rest).outcome = .ok others ∧
      members = ⟨key, identifier, type⟩ :: others := by
  obtain ⟨identifier, type, others, after, hi, ht, ho, hm⟩ := sampleMembers_cons_outcome h
  exact ⟨identifier, type, others, after, hi, sampleType_ok ht, ho, hm⟩

/-- The member stands for the entry: it bears its key, and brings a declaration just if the
    value has an object in it, whose sample the declaration is. -/
def Fits (limit : Nat) (e : String × Value) (m : Member) : Prop :=
  m.key = e.1 ∧ ((e.2.object? = none ∧ m.type.declaration? = none) ∨
    ∃ inner d, e.2.object? = some inner ∧ m.type.declaration? = some d ∧ Sampled limit inner d)

theorem sampleMembers_fit {limit : Nat} {path : Path} {entries : List (String × Value)} :
    ∀ {scope : Scope} {position : Nat} {members : List Member},
      (sampleMembers limit scope position path entries).outcome = .ok members →
        List.Forall₂ (Fits limit) entries members := by
  induction entries with
  | nil => intro scope position members h; cases h; exact .nil
  | cons e rest ih =>
    intro scope position members h
    obtain ⟨identifier, type, others, after, -, typed, ho, rfl⟩ := sampleMembers_cons_ok h
    refine .cons ⟨rfl, ?_⟩ (ih ho)
    cases typed with
    | plain hv ht => exact .inl ⟨hv, ht⟩
    | declared hv ht _ hd => exact .inr ⟨_, _, hv, ht, hd⟩

/-- Of two lists that are related one for one, every item of the second has a partner. -/
theorem exists_left_of_mem {α β : Type} {R : α → β → Prop} {as : List α} {bs : List β} (h : List.Forall₂ R as bs)
    {b : β} (hb : b ∈ bs) : ∃ a ∈ as, R a b := by
  induction h with
  | nil => cases hb
  | cons related _ ih =>
    rcases List.mem_cons.mp hb with rfl | hb
    · exact ⟨_, List.mem_cons_self .., related⟩
    · obtain ⟨a, ha, related⟩ := ih hb
      exact ⟨a, List.mem_cons_of_mem _ ha, related⟩

theorem exists_right_of_mem {α β : Type} {R : α → β → Prop} {as : List α} {bs : List β} (h : List.Forall₂ R as bs)
    {a : α} (ha : a ∈ as) : ∃ b ∈ bs, R a b := exists_left_of_mem h.flip ha

/-! ## Objects and nodes -/

/-- The objects that are visited below an object, by their entries: itself, and those in the
    values of what is visited. -/
inductive Visited (top : List (String × Value)) : List (String × Value) → Prop
  | top : Visited top top
  | inner {entries inner : List (String × Value)} {e : String × Value} :
    Visited top entries → e ∈ entries → e.2.object? = some inner → Visited top inner

variable {limit : Nat} {entries inner : List (String × Value)} {e : String × Value} {m : Member} {d n : Declaration}

theorem Fits.of_declared (h : Fits limit e m) (ht : m.type.declaration? = some n) :
    ∃ inner, e.2.object? = some inner ∧ Sampled limit inner n := by
  rcases h.2 with ⟨_, none⟩ | ⟨inner, n', hv, some, hs⟩
  · rw [none] at ht; cases ht
  · rw [some] at ht; cases ht
    exact ⟨inner, hv, hs⟩

theorem Fits.of_object (h : Fits limit e m) (hv : e.2.object? = some inner) :
    ∃ n, m.type.declaration? = some n ∧ Sampled limit inner n := by
  rcases h.2 with ⟨none, _⟩ | ⟨inner', n, some, ht, hs⟩
  · rw [none] at hv; cases hv
  · rw [some] at hv; cases hv
    exact ⟨n, ht, hs⟩

theorem Sampled.fit (h : Sampled limit entries d) : List.Forall₂ (Fits limit) entries d.members := by
  obtain ⟨path, h⟩ := h
  exact sampleMembers_fit h

/-- Every declaration nested in a sample is the sample of an object in some entry. -/
theorem Sampled.of_nested (h : Sampled limit entries d) (hn : n ∈ d.nested) :
    ∃ e ∈ entries, ∃ inner, e.2.object? = some inner ∧ Sampled limit inner n := by
  obtain ⟨m, hm, ht⟩ := List.mem_filterMap.mp hn
  obtain ⟨e, he, fits⟩ := exists_left_of_mem h.fit hm
  exact ⟨e, he, fits.of_declared ht⟩

/-- Every object in an entry of a sampled object has its sample nested in the declaration. -/
theorem Sampled.nested (h : Sampled limit entries d) (he : e ∈ entries) (hv : e.2.object? = some inner) :
    ∃ n ∈ d.nested, Sampled limit inner n := by
  obtain ⟨m, hm, fits⟩ := exists_right_of_mem h.fit he
  obtain ⟨n, ht, hs⟩ := fits.of_object hv
  exact ⟨n, List.mem_filterMap.mpr ⟨m, hm, ht⟩, hs⟩

theorem node_sampled {limit : Nat} {top : List (String × Value)} {root d : Declaration} {around : List Declaration}
    (h : Sampled limit top root) (node : Declaration.Node root around d) :
    ∃ entries, Visited top entries ∧ Sampled limit entries d := by
  induction node with
  | root => exact ⟨top, .top, h⟩
  | nested _ hn ih =>
    obtain ⟨entries, visited, hs⟩ := ih
    obtain ⟨e, he, inner, hv, hs'⟩ := hs.of_nested hn
    exact ⟨inner, .inner visited he hv, hs'⟩

theorem visited_sampled {limit : Nat} {top entries : List (String × Value)} {root : Declaration}
    (h : Sampled limit top root) (visited : Visited top entries) :
    ∃ around d, Declaration.Node root around d ∧ Sampled limit entries d := by
  induction visited with
  | top => exact ⟨[], root, .root, h⟩
  | inner _ he hv ih =>
    obtain ⟨around, d, node, hs⟩ := ih
    obtain ⟨n, hn, hs'⟩ := hs.nested he hv
    exact ⟨d :: around, n, .nested node hn, hs'⟩

/-- The outermost declaration is a sample under the name it is given. -/
theorem ofSample_ok {limit : Nat} {name : String} {entries : List (String × Value)} {root : Declaration}
    (h : (Declaration.ofSample limit name entries).outcome = .ok root) :
    root.name = name ∧ Sampled limit entries root := by
  simp only [Declaration.ofSample, Report.bind_ok, Report.pure_outcome] at h
  obtain ⟨members, hm, he⟩ := h
  cases he
  exact ⟨rfl, .top, hm⟩

/-- A document that is converted is an object, and the source is that of its sample. -/
theorem Conversion.ofDocument_ok_iff {settings : Settings} {document : Value} {c : Conversion} :
    ofDocument settings document = .ok c ↔
      ∃ entries root, document = .object entries ∧
        (Declaration.ofSample settings.maxDepth settings.rootName entries).outcome = .ok root ∧
        c = ⟨root.source 0 ++ "\n", (Declaration.ofSample settings.maxDepth settings.rootName entries).warnings⟩ := by
  cases document with
  | object entries =>
    unfold ofDocument
    dsimp only
    cases sampled : (Declaration.ofSample settings.maxDepth settings.rootName entries).outcome with
    | error error => simp [sampled]
    | ok root =>
      constructor
      · intro converted
        cases converted
        exact ⟨entries, root, rfl, sampled, rfl⟩
      · rintro ⟨entries', root', object, sampled', rfl⟩
        obtain rfl := Value.object.inj object
        obtain rfl := Except.ok.inj (sampled.symm.trans sampled')
        rfl
  | _ => simp [ofDocument]

end Decodables
