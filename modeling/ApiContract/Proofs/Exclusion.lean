import ApiContract.Proofs.MatchedOperations
/-!
# Exclusion

Excluded parts of a graph are invisible, and it makes no difference whether parts are excluded by
directives or refused by filters.

* `TypeGraph.ShowsSameAs` : two graphs differ in excluded parts only.
* `excluded_parts_invisible` : such graphs are compiled into the same document.
* `TypeGraph.excluding`, `Hooks.filtering` : two ways to leave out what some predicates hold of.
* `exclusion_mechanisms_agree` : they give the same document.
-/

namespace ApiContract

open List (Forall₂)

/-! ## Graphs that differ in excluded parts -/

/-- Two parameters are the same, or both are excluded. -/
inductive ParameterDescriptor.ShowsSameAs : ParameterDescriptor → ParameterDescriptor → Prop
  | shown (p : ParameterDescriptor) : ShowsSameAs p p
  | hidden {p p' : ParameterDescriptor} (h : p.directives.isExcluded = true)
      (h' : p'.directives.isExcluded = true) : ShowsSameAs p p'

/-- Two methods are the same but for excluded parameters, or both are excluded and both carry routes
or none does. -/
inductive MethodDescriptor.ShowsSameAs : MethodDescriptor → MethodDescriptor → Prop
  | shown {m m' : MethodDescriptor} (hname : m.name = m'.name) (hreturns : m.returns = m'.returns)
      (hdirectives : m.directives = m'.directives)
      (hparameters : Forall₂ ParameterDescriptor.ShowsSameAs m.parameters m'.parameters) :
      ShowsSameAs m m'
  | hidden {m m' : MethodDescriptor} (h : m.directives.isExcluded = true)
      (h' : m'.directives.isExcluded = true)
      (hroute : m.directives.route?.isSome = m'.directives.route?.isSome) : ShowsSameAs m m'

/-- Two types are the same but for excluded parts. The methods of excluded types may be any, if
both types declare routes or none does. -/
structure TypeDescriptor.ShowsSameAs (t t' : TypeDescriptor) : Prop where
  name_eq : t.name = t'.name
  kind_eq : t.kind = t'.kind
  constants_eq : t.constants = t'.constants
  superclass_eq : t.superclass = t'.superclass
  directives_eq : t.directives = t'.directives
  fields : Forall₂ FieldMatch t.fields t'.fields
  methods : Forall₂ MethodDescriptor.ShowsSameAs t.methods t'.methods ∨
    (t.directives.isExcluded = true ∧ t.declaresRoutes = t'.declaresRoutes)

/-- Two graphs have the same types in the same order, but for excluded parts. -/
def TypeGraph.ShowsSameAs (g g' : TypeGraph) : Prop :=
  Forall₂ TypeDescriptor.ShowsSameAs g.types g'.types

theorem isIncludedParameter_none (m : MethodDescriptor) (p : ParameterDescriptor) :
    isIncludedParameter .none m p = !p.directives.isExcluded := Bool.and_true _

theorem includedRoute?_none (t : TypeDescriptor) (m : MethodDescriptor) :
    includedRoute? .none t m = if m.directives.isExcluded then none else m.directives.route? := by
  rw [includedRoute?, Hooks.includesOperation]
  simp [Hooks.none]

theorem ParameterDescriptor.ShowsSameAs.parameterMatch {p p' : ParameterDescriptor}
    (h : p.ShowsSameAs p') (m m' : MethodDescriptor) : ParameterMatch .none .none m m' p p' := by
  cases h with
  | shown => exact .shown rfl
  | hidden h h' =>
    exact .hidden (by simp [isIncludedParameter_none, h]) (by simp [isIncludedParameter_none, h'])

namespace MethodDescriptor.ShowsSameAs

variable {m m' : MethodDescriptor}

theorem methodMatch (h : m.ShowsSameAs m') (t t' : TypeDescriptor) :
    MethodMatch .none .none t t' m m' := by
  cases h with
  | shown hname hreturns hdirectives hparameters =>
    refine .shown hname hreturns hdirectives ?_ ?_
    · rw [includedRoute?_none, includedRoute?_none, hdirectives]
    · exact hparameters.imp fun _ _ hp => hp.parameterMatch m m'
  | hidden h h' hroute =>
    exact .hidden (by simp [includedRoute?_none, h]) (by simp [includedRoute?_none, h'])

theorem route_eq (h : m.ShowsSameAs m') :
    m.directives.route?.isSome = m'.directives.route?.isSome := by
  cases h with
  | shown hname hreturns hdirectives hparameters => rw [hdirectives]
  | hidden h h' hroute => exact hroute

end MethodDescriptor.ShowsSameAs

namespace TypeDescriptor.ShowsSameAs

variable {t t' : TypeDescriptor}

theorem declaresRoutes_eq (h : t.ShowsSameAs t') : t.declaresRoutes = t'.declaresRoutes := by
  rcases h.methods with hmethods | ⟨-, hroutes⟩
  · rw [declaresRoutes, declaresRoutes, h.directives_eq,
      any_eq_of_forall₂ hmethods fun _ _ hm => hm.route_eq]
  · exact hroutes

theorem typeMatch (h : t.ShowsSameAs t') : TypeMatch .none .none t t' where
  name_eq := h.name_eq
  kind_eq := h.kind_eq
  constants_eq := h.constants_eq
  superclass_eq := h.superclass_eq
  declaresRoutes_eq := h.declaresRoutes_eq
  fields := h.fields
  data := by
    intro _
    refine ⟨?_, fun _ => h.directives_eq⟩
    rw [isIncluded, isIncluded, h.directives_eq]
    rfl
  handler := by
    intro _
    refine ⟨h.directives_eq, fun hincluded => ?_⟩
    rcases h.methods with hmethods | ⟨hexcluded, -⟩
    · exact hmethods.imp fun _ _ hm => hm.methodMatch t t'
    · rw [hexcluded] at hincluded
      cases hincluded

end TypeDescriptor.ShowsSameAs

theorem TypeGraph.ShowsSameAs.graphMatch {g g' : TypeGraph} (h : g.ShowsSameAs g') :
    GraphMatch .none .none g g' := h.imp fun _ _ ht => ht.typeMatch

/-- Graphs that differ in excluded parts only are compiled into the same document, or refused for
the same fault. -/
theorem excluded_parts_invisible (config : Config) {g g' : TypeGraph} (h : g.ShowsSameAs g') :
    (generate config .none g).result = (generate config .none g').result :=
  h.graphMatch.result_generate_eq rfl rfl config

/-- The configuration of a bank. -/
def vaultConfig : Config :=
  { modelNamespaces := ["vault.model"], handlerNamespaces := ["vault.web"] }

/-- Accounts that can be looked up, with a field, a parameter and a method of any kind besides. The
method also stands in a handler that is excluded. -/
def vaultGraph (field : FieldDescriptor) (parameter : ParameterDescriptor)
    (method : MethodDescriptor) : TypeGraph where
  types := [
    { name := "vault.model.Account", fields := [{ name := "number", type := .text }, field] },
    { name := "vault.web.Accounts"
      methods := [
        { name := "find"
          parameters := [.bound "number" .text { location := .path }, parameter]
          returns := .named "vault.model.Account"
          directives := [.route (.ofPath "/accounts/\x7bnumber\x7d" [.get])] },
        method] },
    { name := "vault.web.Internal", directives := [.exclude], methods := [method] }]
  nodup_names := by
    show ["vault.model.Account", "vault.web.Accounts", "vault.web.Internal"].Nodup
    decide +kernel

/-- A method that is left out. -/
def auditMethod : MethodDescriptor :=
  { name := "audit", directives := [.exclude, .route (.ofPath "/audit" [.get])] }

/-- A method that would be refused if it were not left out. -/
def wipeMethod : MethodDescriptor :=
  { name := "wipe", returns := .list (.list .text), directives := [.route {}, .exclude] }

/-- The vault with a secret field, a secret parameter and a secret method. -/
def quietVault : TypeGraph :=
  vaultGraph { name := "pin", type := .text, directives := [.exclude] }
    { name := "token", type := .text, directives := [.exclude, .binding { location := .header }] }
    auditMethod

/-- The vault with other secrets, each of which would be refused if it were not left out. -/
def noisyVault : TypeGraph :=
  vaultGraph { name := "log", type := .list (.list .text), isStatic := true }
    { name := "body", type := .list (.list .text),
      directives := [.binding { location := .body }, .exclude] }
    wipeMethod

theorem excluded_parts_invisible_vault :
    quietVault.ShowsSameAs noisyVault ∧
      ∃ d, (generate vaultConfig .none quietVault).result = .ok d ∧
        (generate vaultConfig .none noisyVault).result = .ok d := by
  have hmethods : auditMethod.ShowsSameAs wipeMethod := .hidden rfl rfl rfl
  have hsame : quietVault.ShowsSameAs noisyVault := by
    refine .cons ?_ (.cons ?_ (.cons ?_ .nil))
    · exact ⟨rfl, rfl, rfl, rfl, rfl, .cons (.shown _) (.cons (.hidden rfl rfl) .nil), .inl .nil⟩
    · refine ⟨rfl, rfl, rfl, rfl, rfl, .nil, .inl (.cons ?_ (.cons hmethods .nil))⟩
      exact .shown rfl rfl rfl (.cons (.shown _) (.cons (.hidden rfl rfl) .nil))
    · exact ⟨rfl, rfl, rfl, rfl, rfl, .nil, .inl (.cons hmethods .nil)⟩
  obtain ⟨d, hd⟩ := exists_eq_ok_of_toBool
    (show (generate vaultConfig .none quietVault).result.toBool = true by decide +kernel)
  exact ⟨hsame, d, hd, (excluded_parts_invisible vaultConfig hsame).symm.trans hd⟩

/-! ## Exclusion by directives and by filters -/

/-- The same directives, and an exclusion if a condition holds. -/
def Directives.excludingIf (ds : Directives) (hidden : Bool) : Directives :=
  if hidden then ds ++ [.exclude] else ds

theorem isExcluded_excludingIf (ds : Directives) (hidden : Bool) :
    (ds.excludingIf hidden).isExcluded = (ds.isExcluded || hidden) := by
  cases hidden with
  | false => simp [Directives.excludingIf]
  | true => simp [Directives.excludingIf, Directives.isExcluded]

/-- An exclusion is no route. -/
theorem route?_excludingIf (ds : Directives) (hidden : Bool) :
    (ds.excludingIf hidden).route? = ds.route? := by
  cases hidden with
  | false => rfl
  | true => simp [Directives.excludingIf, Directives.route?, List.findSome?_append]

section

variable (p : TypeDescriptor → Bool) (q : TypeDescriptor → MethodDescriptor → Bool)
  (r : MethodDescriptor → ParameterDescriptor → Bool)

/-- A method with an exclusion if `q` holds of it, and on each parameter that `r` holds of. -/
def MethodDescriptor.excluding (t : TypeDescriptor) (m : MethodDescriptor) : MethodDescriptor where
  name := m.name
  parameters := m.parameters.map fun x => { x with directives := x.directives.excludingIf (r m x) }
  returns := m.returns
  directives := m.directives.excludingIf (q t m)

/-- A type with an exclusion if `p` holds of it and it declares no routes, and with exclusions in
its methods. -/
def TypeDescriptor.excluding (t : TypeDescriptor) : TypeDescriptor :=
  { t with
    directives := t.directives.excludingIf (p t && !t.declaresRoutes)
    methods := t.methods.map (MethodDescriptor.excluding q r t) }

/-- A graph with exclusions on the data types that `p` holds of, on the methods that `q` holds of
and on the parameters that `r` holds of. -/
def TypeGraph.excluding (g : TypeGraph) : TypeGraph where
  types := g.types.map (TypeDescriptor.excluding p q r)
  nodup_names := by
    rw [List.map_map]
    exact g.nodup_names

/-- Filters that accept the types, methods and parameters that `p`, `q` and `r` do not hold of. -/
def Hooks.filtering : Hooks where
  typeFilters := [fun t => !p t]
  operationFilters := [fun t m => !q t m]
  parameterFilters := [fun m x => !r m x]

variable {p q r}

theorem declaresRoutes_excluding (t : TypeDescriptor) :
    (t.excluding p q r).declaresRoutes = t.declaresRoutes := by
  rw [TypeDescriptor.declaresRoutes, TypeDescriptor.declaresRoutes, TypeDescriptor.excluding,
    List.any_map]
  simp only [route?_excludingIf]
  congr 2
  funext m
  exact congrArg Option.isSome (route?_excludingIf m.directives (q t m))

theorem isIncludedParameter_filtering (m : MethodDescriptor) (x : ParameterDescriptor) :
    isIncludedParameter (.filtering p q r) m x = (!x.directives.isExcluded && !r m x) := by
  simp [isIncludedParameter, Hooks.includesParameter, Hooks.filtering]

/-- A parameter that the filter refuses is one that is excluded. -/
theorem parameterMatch_excluding (m m' : MethodDescriptor) (x : ParameterDescriptor) :
    ParameterMatch (.filtering p q r) .none m m' x
      { x with directives := x.directives.excludingIf (r m x) } := by
  -- where `r` does not hold the parameter is the same, and its own directives decide
  cases hr : r m x with
  | true =>
    refine .hidden ?_ ?_
    · simp [isIncludedParameter_filtering, hr]
    · simp [isIncludedParameter_none, isExcluded_excludingIf]
  | false =>
    refine .shown ?_
    simp [isIncludedParameter_filtering, isIncludedParameter_none, hr]

/-- A method that the filter refuses is one that is excluded. -/
theorem methodMatch_excluding (t t' : TypeDescriptor) (m : MethodDescriptor) :
    MethodMatch (.filtering p q r) .none t t' m (m.excluding q r t) := by
  have hroute : includedRoute? (.filtering p q r) t m =
      if m.directives.isExcluded || q t m then none else m.directives.route? := by
    simp [includedRoute?, Hooks.includesOperation, Hooks.filtering]
  cases hq : q t m with
  | true =>
    refine .hidden ?_ ?_
    · simp [hroute, hq]
    · simp [includedRoute?_none, MethodDescriptor.excluding, isExcluded_excludingIf, hq]
  | false =>
    have hdirectives : (m.excluding q r t).directives = m.directives := by
      rw [MethodDescriptor.excluding, hq]
      rfl
    refine .shown rfl rfl hdirectives.symm ?_ ?_
    · rw [hroute, includedRoute?_none, hdirectives, hq, Bool.or_false]
    · rw [MethodDescriptor.excluding, List.forall₂_map_right_iff, List.forall₂_same]
      intro x hx
      exact parameterMatch_excluding m _ x

theorem typeMatch_excluding (t : TypeDescriptor) :
    TypeMatch (.filtering p q r) .none t (t.excluding p q r) where
  name_eq := rfl
  kind_eq := rfl
  constants_eq := rfl
  superclass_eq := rfl
  declaresRoutes_eq := (declaresRoutes_excluding t).symm
  fields := List.forall₂_same.2 fun f _ => .shown f
  data := by
    intro hroutes
    have hdirectives : (t.excluding p q r).directives = t.directives.excludingIf (p t) := by
      rw [TypeDescriptor.excluding, hroutes, Bool.not_false, Bool.and_true]
    have hincluded : isIncluded (.filtering p q r) t = (!t.directives.isExcluded && !p t) := by
      simp [isIncluded, Hooks.includesType, Hooks.filtering]
    constructor
    · rw [hincluded, isIncluded, hdirectives, isExcluded_excludingIf, Bool.not_or]
      exact (Bool.and_true _).symm
    · intro hi
      rw [hincluded, Bool.and_eq_true, Bool.not_eq_true', Bool.not_eq_true'] at hi
      rw [hdirectives, hi.2]
      rfl
  handler := by
    intro hroutes
    have hdirectives : (t.excluding p q r).directives = t.directives := by
      rw [TypeDescriptor.excluding, hroutes, Bool.not_true, Bool.and_false]
      rfl
    refine ⟨hdirectives.symm, fun _ => ?_⟩
    show Forall₂ _ t.methods (t.methods.map (MethodDescriptor.excluding q r t))
    rw [List.forall₂_map_right_iff, List.forall₂_same]
    intro m hm
    exact methodMatch_excluding t _ m

theorem TypeGraph.graphMatch_excluding (g : TypeGraph) :
    GraphMatch (.filtering p q r) .none g (g.excluding p q r) := by
  show Forall₂ _ g.types (g.types.map (TypeDescriptor.excluding p q r))
  rw [List.forall₂_map_right_iff, List.forall₂_same]
  intro t ht
  exact typeMatch_excluding t

end

/-- Parts that are excluded by directives are left out as parts that filters refuse. -/
theorem exclusion_mechanisms_agree (config : Config) (g : TypeGraph) (p : TypeDescriptor → Bool)
    (q : TypeDescriptor → MethodDescriptor → Bool)
    (r : MethodDescriptor → ParameterDescriptor → Bool) :
    (generate config .none (g.excluding p q r)).result =
      (generate config (.filtering p q r) g).result :=
  (g.graphMatch_excluding.result_generate_eq rfl rfl config).symm

end ApiContract
