import Mathlib.Data.List.Nodup
import ApiContract.Generator
import ApiContract.Proofs.Outcome
/-!
# Candidates, and the scope of a generation

A type becomes a component if it is a *candidate*: it lies in the model namespaces, declares no
route, is not excluded, and every type filter accepts it. `candidateTypes` lists the candidates of a
graph in order of declaration, and `IsScopeOf` says what the transformations of a generation see.

* `result_candidates` : the scan of a generation finds exactly the candidates.
* `IsScopeOf.isComponent_iff`, `IsScopeOf.component?_eq_some_iff` : in the scope of a generation, the
  components are the candidates.
* `IsScopeOf.isRootType_iff`, `IsScopeOf.polymorphicBase?_eq` : its root types and its bases.
-/

namespace ApiContract

variable {config : Config} {hooks : Hooks} {graph : TypeGraph}

/-! ## Candidates -/

/-- Whether a type lies in the namespaces that some patterns cover. Patterns that do not parse cover
nothing. -/
def inNamespaces (patterns : List String) (name : String) : Bool :=
  match NamespaceMatcher.ofTexts patterns with
  | .ok matcher => matcher.containsType name
  | .error _ => false

/-- Whether a type becomes a component. -/
def isCandidate (config : Config) (hooks : Hooks) (t : TypeDescriptor) : Bool :=
  inNamespaces config.modelNamespaces t.name && !t.declaresRoutes && !t.directives.isExcluded &&
    hooks.includesType t

/-- The types of a graph that become components, in order of declaration. -/
def candidateTypes (config : Config) (hooks : Hooks) (graph : TypeGraph) : List TypeDescriptor :=
  graph.types.filter (isCandidate config hooks)

/-- A name is that of a candidate. -/
def IsCandidateName (config : Config) (hooks : Hooks) (graph : TypeGraph) (name : String) : Prop :=
  ∃ t ∈ candidateTypes config hooks graph, t.name = name

theorem inNamespaces_eq {patterns : List String} {matcher : NamespaceMatcher}
    (h : NamespaceMatcher.ofTexts patterns = .ok matcher) (name : String) :
    inNamespaces patterns name = matcher.containsType name := by
  rw [inNamespaces, h]

theorem isCandidate_eq {models : NamespaceMatcher}
    (h : NamespaceMatcher.ofTexts config.modelNamespaces = .ok models) (t : TypeDescriptor) :
    isCandidate config hooks t = (isModel models t && isIncluded hooks t) := by
  rw [isCandidate, inNamespaces_eq h, isModel, isIncluded, Bool.and_assoc, Bool.and_assoc]

/-- The scan finds exactly the candidates. -/
theorem result_candidates {models : NamespaceMatcher}
    (h : NamespaceMatcher.ofTexts config.modelNamespaces = .ok models)
    (types : List TypeDescriptor) :
    (candidates hooks models types).result = .ok (types.filter (isCandidate config hooks)) := by
  induction types with
  | nil => rfl
  | cons t rest ih =>
    rw [candidates, List.filter_cons, isCandidate_eq h]
    cases hm : isModel models t with
    | false => simpa using ih
    | true =>
      cases hi : isIncluded hooks t with
      | false =>
        simp only [if_true, Bool.false_eq_true, if_false, Bool.and_false]
        rw [Traced.result_report_bind, ih]
      | true =>
        simp only [if_true, Bool.and_self]
        rw [Traced.result_bind_of_ok ih]
        rfl

theorem mem_candidateTypes {t : TypeDescriptor} :
    t ∈ candidateTypes config hooks graph ↔ t ∈ graph.types ∧ isCandidate config hooks t = true :=
  List.mem_filter

theorem isCandidateName_of_mem {t : TypeDescriptor} (h : t ∈ candidateTypes config hooks graph) :
    IsCandidateName config hooks graph t.name := ⟨t, h, rfl⟩

theorem mem_types_of_mem_candidateTypes {t : TypeDescriptor}
    (h : t ∈ candidateTypes config hooks graph) : t ∈ graph.types := (mem_candidateTypes.1 h).1

/-! ## Types by name -/

theorem TypeGraph.get?_of_mem {t : TypeDescriptor} (h : t ∈ graph.types) :
    graph.get? t.name = some t := by
  rw [TypeGraph.get?]
  cases hfind : graph.types.find? (·.name == t.name) with
  | none =>
    rw [List.find?_eq_none] at hfind
    exact absurd (beq_self_eq_true t.name) (hfind t h)
  | some u =>
    have hname : u.name = t.name := by simpa using List.find?_some hfind
    have hu : u ∈ graph.types := List.mem_of_find?_eq_some hfind
    rw [List.inj_on_of_nodup_map graph.nodup_names hu h hname]

theorem TypeGraph.get?_eq_some_iff {name : String} {t : TypeDescriptor} :
    graph.get? name = some t ↔ t ∈ graph.types ∧ t.name = name := by
  constructor
  · intro h
    exact ⟨mem_of_get? h, name_of_get? h⟩
  · rintro ⟨h, rfl⟩
    exact get?_of_mem h

theorem TypeGraph.eq_of_name_eq {t u : TypeDescriptor} (ht : t ∈ graph.types)
    (hu : u ∈ graph.types) (h : t.name = u.name) : t = u :=
  List.inj_on_of_nodup_map graph.nodup_names ht hu h

theorem nodup_names_candidateTypes : ((candidateTypes config hooks graph).map (·.name)).Nodup :=
  (List.filter_sublist.map _).nodup graph.nodup_names

/-! ## The scope of a generation -/

/-- A scope is that of a generation: it holds the graph, the model namespaces, the polymorphic bases
`bases`, the candidates as components, and the root types. -/
structure IsScopeOf (config : Config) (hooks : Hooks) (graph : TypeGraph)
    (bases : PolymorphismMap) (s : Scope) : Prop where
  graph_eq : s.graph = graph
  namespaces_eq : NamespaceMatcher.ofTexts config.modelNamespaces = .ok s.namespaces
  bases_eq : (polymorphicBases config hooks graph).result = .ok bases
  polymorphism_eq : s.polymorphism = some bases
  components_eq : s.components = some ((candidateTypes config hooks graph).map (·.name))
  rootTypes_eq : s.rootTypes = config.rootTypes

theorem result_polymorphicBases {models : NamespaceMatcher}
    (h : NamespaceMatcher.ofTexts config.modelNamespaces = .ok models) :
    (polymorphicBases config hooks graph).result =
      (resolvePolymorphism graph (candidateTypes config hooks graph)).result := by
  rw [polymorphicBases, h, Traced.result_bind_of_ok (Traced.result_lift _),
    Traced.result_bind_of_ok (result_candidates h graph.types)]
  rfl

namespace IsScopeOf

variable {bases : PolymorphismMap} {s : Scope}

theorem isComponent_iff (h : IsScopeOf config hooks graph bases s) {name : String} :
    s.isComponent name = true ↔ IsCandidateName config hooks graph name := by
  rw [Scope.isComponent, h.components_eq, Bool.and_eq_true, Option.all_some, List.contains_iff_mem,
    List.mem_map]
  constructor
  · exact And.right
  · rintro ⟨t, ht, rfl⟩
    have hc : isCandidate config hooks t = true := (mem_candidateTypes.1 ht).2
    rw [isCandidate_eq h.namespaces_eq, isModel] at hc
    simp only [Bool.and_eq_true] at hc
    exact ⟨hc.1.1, t, ht, rfl⟩

theorem component?_eq_some_iff (h : IsScopeOf config hooks graph bases s) {name : String}
    {t : TypeDescriptor} :
    s.component? name = some t ↔ t ∈ candidateTypes config hooks graph ∧ t.name = name := by
  rw [Scope.component?, Scope.lookup?, h.graph_eq, Option.filter_eq_some_iff,
    TypeGraph.get?_eq_some_iff]
  constructor
  · rintro ⟨⟨ht, rfl⟩, hc⟩
    obtain ⟨u, hu, hname⟩ := h.isComponent_iff.1 hc
    have huv := TypeGraph.eq_of_name_eq (mem_types_of_mem_candidateTypes hu) ht hname
    exact ⟨huv ▸ hu, rfl⟩
  · rintro ⟨ht, rfl⟩
    exact ⟨⟨mem_types_of_mem_candidateTypes ht, rfl⟩, h.isComponent_iff.2 ⟨t, ht, rfl⟩⟩

theorem component?_eq_none_iff (h : IsScopeOf config hooks graph bases s) {name : String} :
    s.component? name = none ↔ ¬ IsCandidateName config hooks graph name := by
  constructor
  · rintro hn ⟨t, ht, hname⟩
    rw [h.component?_eq_some_iff.2 ⟨ht, hname⟩] at hn
    cases hn
  · intro hn
    cases hc : s.component? name with
    | none => rfl
    | some t => exact absurd ⟨t, h.component?_eq_some_iff.1 hc⟩ hn

theorem isRootType_iff (h : IsScopeOf config hooks graph bases s) {name : String} :
    s.isRootType name = true ↔ name ∈ config.rootTypes := by
  rw [Scope.isRootType, h.rootTypes_eq, List.contains_iff_mem]

theorem polymorphicBase?_eq (h : IsScopeOf config hooks graph bases s) (name : String) :
    s.polymorphicBase? name = bases.get? name := by
  rw [Scope.polymorphicBase?, h.polymorphism_eq, Option.bind_some]

/-- A graph and a configuration have one scope. -/
theorem unique {bases' : PolymorphismMap} {s' : Scope} (h : IsScopeOf config hooks graph bases s)
    (h' : IsScopeOf config hooks graph bases' s') : s = s' := by
  have hb : bases = bases' := Except.ok.inj (h.bases_eq.symm.trans h'.bases_eq)
  have hn : s.namespaces = s'.namespaces :=
    Except.ok.inj (h.namespaces_eq.symm.trans h'.namespaces_eq)
  subst hb
  cases s with
  | mk graph' namespaces polymorphism components rootTypes =>
    cases s' with
    | mk graph'' namespaces' polymorphism' components' rootTypes' =>
      rw [Scope.mk.injEq]
      exact ⟨h.graph_eq.trans h'.graph_eq.symm, hn,
        h.polymorphism_eq.trans h'.polymorphism_eq.symm,
        h.components_eq.trans h'.components_eq.symm, h.rootTypes_eq.trans h'.rootTypes_eq.symm⟩

end IsScopeOf

end ApiContract
