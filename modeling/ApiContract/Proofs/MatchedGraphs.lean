import Mathlib.Data.List.Forall2
import ApiContract.Proofs.Generation
import ApiContract.Proofs.OperationValues
import ApiContract.Proofs.PairedRuns
/-!
# Graphs that show the same

Two graphs, each seen through its own hooks, match if every part that is included in one is included
in the other and is the same there. Of parts that are left out on both sides nothing has to be the
same. Types are never left out altogether, since a class can have them as superclasses.

* `FieldMatch`, `ParameterMatch`, `MethodMatch`, `TypeMatch`, `GraphMatch` : the relation, from the
  parts to the whole.
* `GraphMatch.candidates`, `GraphMatch.resolvePolymorphism_eq` : matching graphs have matching
  candidates and the same bases.
* `ScopeMatch` : the scopes of two generations that match.
-/

namespace ApiContract

open List (Forall₂)

/-! ## Lists in step -/

/-- Filters that agree keep lists in step, and what they say of the elements that they keep. -/
theorem forall₂_filter {α β : Type} {r q : α → β → Prop} {keep : α → Bool} {keep' : β → Bool}
    {xs : List α} {ys : List β} (h : Forall₂ r xs ys)
    (hkeep : ∀ x y, r x y → keep x = keep' y)
    (hkept : ∀ x y, r x y → keep x = true → q x y) :
    Forall₂ q (xs.filter keep) (ys.filter keep') := by
  induction h with
  | nil => exact .nil
  | @cons x y xs ys hxy hrest ih =>
    have hsame := hkeep x y hxy
    cases hx : keep x with
    | true =>
      rw [List.filter_cons_of_pos hx, List.filter_cons_of_pos (hsame ▸ hx)]
      exact .cons (hkept x y hxy hx) ih
    | false =>
      rw [List.filter_cons_of_neg (by simp [hx]), List.filter_cons_of_neg (by simp [← hsame, hx])]
      exact ih

/-- Conditions that agree find elements at the same place. -/
theorem forall₂_find? {α β : Type} {r : α → β → Prop} {found : α → Bool} {found' : β → Bool}
    {xs : List α} {ys : List β} (h : Forall₂ r xs ys)
    (hfound : ∀ x y, r x y → found x = found' y) :
    Option.Rel r (xs.find? found) (ys.find? found') := by
  induction h with
  | nil => exact .none
  | @cons x y xs ys hxy hrest ih =>
    rw [List.find?_cons, List.find?_cons, ← hfound x y hxy]
    cases found x with
    | true => exact .some hxy
    | false => exact ih

theorem optionRel_cases {α β : Type} {r : α → β → Prop} {a : Option α} {b : Option β}
    (h : Option.Rel r a b) :
    (a = none ∧ b = none) ∨ ∃ x y, a = some x ∧ b = some y ∧ r x y := by
  cases h with
  | none => exact Or.inl ⟨rfl, rfl⟩
  | some hxy => exact Or.inr ⟨_, _, rfl, rfl, hxy⟩

theorem map_eq_of_forall₂ {α β γ : Type} {r : α → β → Prop} {f : α → γ} {f' : β → γ}
    {xs : List α} {ys : List β} (h : Forall₂ r xs ys) (hf : ∀ x y, r x y → f x = f' y) :
    xs.map f = ys.map f' := by
  rw [← List.forall₂_eq_eq_eq, List.forall₂_map_left_iff, List.forall₂_map_right_iff]
  exact h.imp hf

theorem any_eq_of_forall₂ {α β : Type} {r : α → β → Prop} {f : α → Bool} {f' : β → Bool}
    {xs : List α} {ys : List β} (h : Forall₂ r xs ys) (hf : ∀ x y, r x y → f x = f' y) :
    xs.any f = ys.any f' := by
  induction h with
  | nil => rfl
  | cons hxy hrest ih => rw [List.any_cons, List.any_cons, hf _ _ hxy, ih]

theorem forall₂_getElem? {α β : Type} {r : α → β → Prop} {xs : List α} {ys : List β}
    (h : Forall₂ r xs ys) (i : Nat) : Option.Rel r xs[i]? ys[i]? := by
  induction h generalizing i with
  | nil => exact .none
  | cons hxy hrest ih =>
    cases i with
    | zero => exact .some hxy
    | succ i => exact ih i

/-! ## The relation -/

/-- Two fields are the same, or neither becomes a property. -/
inductive FieldMatch : FieldDescriptor → FieldDescriptor → Prop
  | shown (f : FieldDescriptor) : FieldMatch f f
  | hidden {f f' : FieldDescriptor} (h : f.isSkipped = true) (h' : f'.isSkipped = true) :
      FieldMatch f f'

section

variable (hooks hooks' : Hooks)

/-- Two parameters are the same and included alike, or neither is included. -/
inductive ParameterMatch (m m' : MethodDescriptor) :
    ParameterDescriptor → ParameterDescriptor → Prop
  | shown {p : ParameterDescriptor}
      (h : isIncludedParameter hooks m p = isIncludedParameter hooks' m' p) :
      ParameterMatch m m' p p
  | hidden {p p' : ParameterDescriptor} (h : isIncludedParameter hooks m p = false)
      (h' : isIncludedParameter hooks' m' p' = false) : ParameterMatch m m' p p'

/-- Two methods have matching parameters and are otherwise the same, with the same included route,
or neither has one. -/
inductive MethodMatch (t t' : TypeDescriptor) : MethodDescriptor → MethodDescriptor → Prop
  | shown {m m' : MethodDescriptor} (hname : m.name = m'.name) (hreturns : m.returns = m'.returns)
      (hdirectives : m.directives = m'.directives)
      (hroute : includedRoute? hooks t m = includedRoute? hooks' t' m')
      (hparameters : Forall₂ (ParameterMatch hooks hooks' m m') m.parameters m'.parameters) :
      MethodMatch t t' m m'
  | hidden {m m' : MethodDescriptor} (h : includedRoute? hooks t m = none)
      (h' : includedRoute? hooks' t' m' = none) : MethodMatch t t' m m'

/-- Two types are of one name, kind and superclass, and have matching fields. Data types are
included alike, with the same directives if they are; handlers have the same directives, and
matching methods unless they are excluded. -/
structure TypeMatch (t t' : TypeDescriptor) : Prop where
  name_eq : t.name = t'.name
  kind_eq : t.kind = t'.kind
  constants_eq : t.constants = t'.constants
  superclass_eq : t.superclass = t'.superclass
  declaresRoutes_eq : t.declaresRoutes = t'.declaresRoutes
  fields : Forall₂ FieldMatch t.fields t'.fields
  data : t.declaresRoutes = false →
    isIncluded hooks t = isIncluded hooks' t' ∧
      (isIncluded hooks t = true → t.directives = t'.directives)
  handler : t.declaresRoutes = true →
    t.directives = t'.directives ∧
      (t.directives.isExcluded = false →
        Forall₂ (MethodMatch hooks hooks' t t') t.methods t'.methods)

/-- Two graphs have matching types in the same order. -/
def GraphMatch (g g' : TypeGraph) : Prop := Forall₂ (TypeMatch hooks hooks') g.types g'.types

/-- Two data types that become components match and have the same directives. -/
def ComponentMatch (t t' : TypeDescriptor) : Prop :=
  TypeMatch hooks hooks' t t' ∧ t.directives = t'.directives

/-- Two handlers match. -/
def HandlerMatch (t t' : TypeDescriptor) : Prop :=
  TypeMatch hooks hooks' t t' ∧ t.declaresRoutes = true

/-- Two scopes hold matching graphs and are otherwise the same. -/
structure ScopeMatch (s s' : Scope) : Prop where
  graph : GraphMatch hooks hooks' s.graph s'.graph
  namespaces_eq : s.namespaces = s'.namespaces
  polymorphism_eq : s.polymorphism = s'.polymorphism
  components_eq : s.components = s'.components
  rootTypes_eq : s.rootTypes = s'.rootTypes

end

variable {hooks hooks' : Hooks} {config : Config} {g g' : TypeGraph} {t t' : TypeDescriptor}

/-! ## Types -/

namespace TypeMatch

theorem simpleName_eq (h : TypeMatch hooks hooks' t t') : t.simpleName = t'.simpleName := by
  rw [TypeDescriptor.simpleName, TypeDescriptor.simpleName, h.name_eq]

theorem isEnum_eq (h : TypeMatch hooks hooks' t t') : t.isEnum = t'.isEnum := by
  rw [TypeDescriptor.isEnum, TypeDescriptor.isEnum, h.kind_eq]

theorem isCandidate_eq (h : TypeMatch hooks hooks' t t') (config : Config) :
    isCandidate config hooks t = isCandidate config hooks' t' := by
  rw [isCandidate, isCandidate, Bool.and_assoc, Bool.and_assoc (_ && _), ← isIncluded, ← isIncluded,
    h.name_eq, h.declaresRoutes_eq]
  cases hr : t'.declaresRoutes with
  | true => simp
  | false => rw [(h.data (h.declaresRoutes_eq.trans hr)).1]

/-- Candidates have the same directives on both sides. -/
theorem directives_eq (h : TypeMatch hooks hooks' t t')
    (hc : isCandidate config hooks t = true) : t.directives = t'.directives := by
  rw [isCandidate, Bool.and_assoc, ← isIncluded] at hc
  simp only [Bool.and_eq_true, Bool.not_eq_true'] at hc
  exact (h.data hc.1.2).2 hc.2

end TypeMatch

namespace GraphMatch

/-- Looking a name up gives matching types, or nothing on both sides. -/
theorem get? (h : GraphMatch hooks hooks' g g') (name : String) :
    Option.Rel (TypeMatch hooks hooks') (g.get? name) (g'.get? name) := by
  apply forall₂_find? h
  intro t t' ht
  rw [ht.name_eq]

theorem get?_eq_none (h : GraphMatch hooks hooks' g g') {name : String}
    (hn : g.get? name = none) : g'.get? name = none := by
  rcases optionRel_cases (h.get? name) with ⟨-, hn'⟩ | ⟨t, t', ht, -, -⟩
  · exact hn'
  · rw [hn] at ht
    cases ht

theorem exists_get? (h : GraphMatch hooks hooks' g g') {name : String}
    (ht : g.get? name = some t) : ∃ t', g'.get? name = some t' ∧ TypeMatch hooks hooks' t t' := by
  rcases optionRel_cases (h.get? name) with ⟨hn, -⟩ | ⟨u, u', hu, hu', hmatch⟩
  · rw [hn] at ht
    cases ht
  · obtain rfl : u = t := Option.some.inj (hu.symm.trans ht)
    exact ⟨u', hu', hmatch⟩

theorem contains_eq (h : GraphMatch hooks hooks' g g') (name : String) :
    g.contains name = g'.contains name := by
  rw [TypeGraph.contains, TypeGraph.contains]
  rcases optionRel_cases (h.get? name) with ⟨hn, hn'⟩ | ⟨t, t', ht, ht', -⟩
  · rw [hn, hn']
  · rw [ht, ht']
    rfl

theorem candidates (h : GraphMatch hooks hooks' g g') (config : Config) :
    Forall₂ (ComponentMatch hooks hooks') (candidateTypes config hooks g)
      (candidateTypes config hooks' g') := by
  apply forall₂_filter h
  · intro t t' ht
    exact ht.isCandidate_eq config
  · intro t t' ht hc
    exact ⟨ht, ht.directives_eq hc⟩

theorem candidateNames_eq (h : GraphMatch hooks hooks' g g') (config : Config) :
    (candidateTypes config hooks g).map (·.name) = (candidateTypes config hooks' g').map (·.name) :=
  map_eq_of_forall₂ (h.candidates config) fun _ _ ht => ht.1.name_eq

theorem handlers (h : GraphMatch hooks hooks' g g') (matcher : NamespaceMatcher) :
    Forall₂ (HandlerMatch hooks hooks') (handlersOf g matcher) (handlersOf g' matcher) := by
  apply forall₂_filter h
  · intro t t' ht
    rw [ht.name_eq, ht.declaresRoutes_eq]
  · intro t t' ht hkeep
    exact ⟨ht, (Bool.and_eq_true_iff.1 hkeep).2⟩

end GraphMatch

/-! ## Bases -/

theorem resolveSubtypes_eq (h : ∀ name, g.contains name = g'.contains name)
    (candidates : List String) (base : String) (seenTags seenClasses : List String)
    (classes : Assoc String String) (subtypes : List SubtypeDecl) :
    resolveSubtypes g candidates base seenTags seenClasses classes subtypes =
      resolveSubtypes g' candidates base seenTags seenClasses classes subtypes := by
  induction subtypes generalizing seenTags seenClasses classes with
  | nil => rfl
  | cons d rest ih => simp only [resolveSubtypes, h, ih]

theorem resolveBases_eq (h : GraphMatch hooks hooks' g g') (candidates : List String)
    (bases : PolymorphismMap) {types types' : List TypeDescriptor}
    (ht : Forall₂ (ComponentMatch hooks hooks') types types') :
    resolveBases g candidates bases types = resolveBases g' candidates bases types' := by
  have hbase : ∀ t t', ComponentMatch hooks hooks' t t' →
      resolveBase g candidates t = resolveBase g' candidates t' := by
    rintro t t' ⟨ht, hdirectives⟩
    simp only [resolveBase, ht.name_eq, hdirectives, resolveSubtypes_eq h.contains_eq]
  induction ht generalizing bases with
  | nil => rfl
  | cons ht hrest ih => simp only [resolveBases, hbase _ _ ht, ht.1.name_eq, ih]

/-- The bases of matching graphs are the same. -/
theorem GraphMatch.resolvePolymorphism_eq (h : GraphMatch hooks hooks' g g') (config : Config) :
    resolvePolymorphism g (candidateTypes config hooks g) =
      resolvePolymorphism g' (candidateTypes config hooks' g') := by
  rw [resolvePolymorphism, resolvePolymorphism, h.candidateNames_eq config]
  exact resolveBases_eq h _ _ (h.candidates config)

theorem GraphMatch.scopeMatch (h : GraphMatch hooks hooks' g g') (config : Config)
    (models : NamespaceMatcher) (bases : PolymorphismMap) :
    ScopeMatch hooks hooks' (generationScope config hooks g models bases)
      (generationScope config hooks' g' models bases) := by
  exact ⟨h, rfl, rfl, congrArg some (h.candidateNames_eq config), rfl⟩

end ApiContract
