import ApiContract.Proofs.AgreeingScopes
import ApiContract.Proofs.FaultyDeclarations
import ApiContract.Proofs.SubclassTags
/-!
# Unrelated types

A type that no other type mentions can be added to a graph without a trace in what was there. The
operations stay as they are, every component keeps its schema, and at most one component is new. The
graph is refused only for what is wrong with the new type.

* `TypeDescriptor.IsUnrelatedTo`, `TypeGraph.Extends` : the new type, and the graph with it.
* `TypeGraph.Extends.agreeOn` : both graphs agree on all names but the new one.
* `get?_components_of_extends` : what is there keeps its component.
* `unrelated_type_added` : what becomes of the document.
-/

namespace ApiContract

open Relation

/-- A type has a new name, which no type of a graph mentions; it declares no route and no
polymorphic base. -/
structure TypeDescriptor.IsUnrelatedTo (t : TypeDescriptor) (g : TypeGraph) : Prop where
  new : ∀ u ∈ g.types, u.name ≠ t.name
  unmentioned : ∀ u ∈ g.types, t.name ∉ u.mentionedNames
  no_routes : t.declaresRoutes = false
  no_base : t.directives.polymorphic? = none

/-- A graph has the types of another one, in their order, and one type besides. -/
def TypeGraph.Extends (g' g : TypeGraph) (t : TypeDescriptor) : Prop :=
  ∃ before after, g.types = before ++ after ∧ g'.types = before ++ t :: after

variable {config : Config} {hooks : Hooks} {g g' : TypeGraph} {t : TypeDescriptor}
  {bases bases' : PolymorphismMap} {s s' : Scope} {handlers : NamespaceMatcher} {d d' : Document}

/-! ## The graph with the new type -/

namespace TypeGraph.Extends

theorem mem_types_iff (h : g'.Extends g t) {u : TypeDescriptor} :
    u ∈ g'.types ↔ u = t ∨ u ∈ g.types := by
  obtain ⟨before, after, hg, hg'⟩ := h
  rw [hg, hg', List.perm_middle.mem_iff, List.mem_cons]

/-- Both graphs agree on all names but the new one. -/
theorem agreeOn (h : g'.Extends g t) (ht : t.IsUnrelatedTo g) :
    g.AgreeOn (fun name => name ≠ t.name) g' where
  get?_eq := by
    intro name hname
    apply Option.ext
    intro u
    rw [get?_eq_some_iff, get?_eq_some_iff, h.mem_types_iff]
    constructor
    · rintro ⟨hu, hun⟩
      exact ⟨Or.inr hu, hun⟩
    · rintro ⟨rfl | hu, hun⟩
      · exact absurd hun.symm hname
      · exact ⟨hu, hun⟩
  own := ht.new
  mentioned := by
    rintro u hu name hmentioned rfl
    exact ht.unmentioned u hu hmentioned

/-- The candidates, with the new type among them if it is one. -/
theorem candidateTypes_eq (config : Config) (hooks : Hooks) (h : g'.Extends g t) :
    ∃ before after, candidateTypes config hooks g = before ++ after ∧
      candidateTypes config hooks g' =
        before ++ (if isCandidate config hooks t then [t] else []) ++ after := by
  obtain ⟨before, after, hg, hg'⟩ := h
  unfold candidateTypes
  rw [hg, hg', List.filter_append, List.filter_append, List.filter_cons]
  refine ⟨_, _, rfl, ?_⟩
  by_cases hc : isCandidate config hooks t = true
  · simp [hc]
  · simp [hc]

theorem mem_candidateTypes_iff (h : g'.Extends g t) {u : TypeDescriptor} :
    u ∈ candidateTypes config hooks g' ↔
      (u = t ∧ isCandidate config hooks t = true) ∨ u ∈ candidateTypes config hooks g := by
  rw [mem_candidateTypes, mem_candidateTypes, h.mem_types_iff]
  constructor
  · rintro ⟨rfl | hu, hc⟩
    · exact Or.inl ⟨rfl, hc⟩
    · exact Or.inr ⟨hu, hc⟩
  · rintro (⟨rfl, hc⟩ | ⟨hu, hc⟩)
    · exact ⟨Or.inl rfl, hc⟩
    · exact ⟨Or.inr hu, hc⟩

/-- The new type is no handler. -/
theorem handlersOf_eq (h : g'.Extends g t) (ht : t.IsUnrelatedTo g) (handlers : NamespaceMatcher) :
    handlersOf g' handlers = handlersOf g handlers := by
  obtain ⟨before, after, hg, hg'⟩ := h
  unfold handlersOf
  rw [hg, hg', List.filter_append, List.filter_append, List.filter_cons, ht.no_routes,
    Bool.and_false]
  rfl

/-- The new type is no base, so that the bases are the same. -/
theorem declaredBases_eq (h : g'.Extends g t) (ht : t.IsUnrelatedTo g) :
    declaredBases ((candidateTypes config hooks g').map (·.name)) (candidateTypes config hooks g') =
      declaredBases ((candidateTypes config hooks g).map (·.name))
        (candidateTypes config hooks g) := by
  obtain ⟨before, after, hc, hc'⟩ := h.candidateTypes_eq config hooks
  have hagree := h.agreeOn ht
  have hnone : ∀ names, declaredBase? names t = none := by
    intro names
    unfold declaredBase?
    rw [ht.no_base]
    rfl
  have hdropped : ∀ names, declaredBases names (candidateTypes config hooks g') =
      declaredBases names (candidateTypes config hooks g) := by
    intro names
    rw [hc, hc']
    unfold declaredBases
    by_cases hcandidate : isCandidate config hooks t = true
    · simp [hcandidate, hnone]
    · simp [hcandidate]
  rw [hdropped]
  unfold declaredBases
  refine List.filterMap_congr ?_
  intro u hu
  rw [hagree.declaredBase?_eq (mem_types_of_mem_candidateTypes hu)]

end TypeGraph.Extends

/-- Every class keeps its discriminator value. -/
theorem subclassTag?_of_extends (h : g'.Extends g t) (ht : t.IsUnrelatedTo g)
    (hs : IsScopeOf config hooks g bases s) (hs' : IsScopeOf config hooks g' bases' s')
    (name : String) : subclassTag? s name = subclassTag? s' name := by
  have hbases : bases = bases' := by
    rw [hs.bases_eq_declared.2, hs'.bases_eq_declared.2, h.declaredBases_eq ht]
  unfold subclassTag?
  rw [hs.polymorphism_eq, hs'.polymorphism_eq, hbases]

/-- Every candidate that was there has the component that it had. -/
theorem componentOf_of_extends (hz : hooks.interceptorCount = 0) (h : g'.Extends g t)
    (ht : t.IsUnrelatedTo g) (hs : IsScopeOf config hooks g bases s)
    (hs' : IsScopeOf config hooks g' bases' s') {u : TypeDescriptor} (hu : u ∈ g.types)
    {schema : Schema} (hschema : (componentOf s hooks u).result = .ok schema) :
    (componentOf s' hooks u).result = .ok schema := by
  have hmem : u ∈ s.graph.types := by
    rw [hs.graph_eq]
    exact hu
  obtain ⟨schema', hschema', -, hequal⟩ :=
    ((h.agreeOn ht).scope hs hs').componentOf_eq_ok hz hmem hschema
  rw [hequal (subclassTag?_of_extends h ht hs hs' u.name)]
  exact hschema'

/-- Both graphs give the same operations. -/
theorem extracted_of_extends (h : g'.Extends g t) (ht : t.IsUnrelatedTo g)
    (hs : IsScopeOf config hooks g bases s) (hs' : IsScopeOf config hooks g' bases' s') :
    (handlersOf g' handlers).flatMap (handlerOperations s' hooks) =
      (handlersOf g handlers).flatMap (handlerOperations s hooks) := by
  rw [h.handlersOf_eq ht]
  refine List.flatMap_congr ?_
  intro u hu
  have hmem : u ∈ s.graph.types := by
    rw [hs.graph_eq]
    exact (List.mem_filter.1 hu).1
  exact (((h.agreeOn ht).scope hs hs').handlerOperations_eq hmem).symm

/-! ## The document with the new type -/

/-- A name that is not that of a new component has the component that it had. -/
theorem get?_components_of_extends (hz : hooks.interceptorCount = 0) (h : g'.Extends g t)
    (ht : t.IsUnrelatedTo g) (hs : IsScopeOf config hooks g bases s)
    (hs' : IsScopeOf config hooks g' bases' s')
    (hd : (generateIn config hooks g s handlers).result = .ok d)
    (hd' : (generateIn config hooks g' s' handlers).result = .ok d') {name : String}
    (hname : isCandidate config hooks t = true → name ≠ t.simpleName) :
    d'.components.get? name = d.components.get? name := by
  have hadded := componentsAdded_of_generateIn hd
  have hadded' := componentsAdded_of_generateIn hd'
  refine (hadded.get?_eq hadded' ?_ ?_).symm
  · intro u hu
    rw [h.mem_candidateTypes_iff]
    refine ⟨Or.inr, ?_⟩
    rintro (⟨rfl, hc⟩ | hmem)
    · exact absurd hu.symm (hname hc)
    · exact hmem
  · intro u hu schema hschema
    exact componentOf_of_extends hz h ht hs hs' (mem_types_of_mem_candidateTypes hu) hschema

/-- The new type is accepted exactly if it is sound where it becomes a component. -/
theorem isAccepted_of_extends (hz : hooks.interceptorCount = 0) (h : g'.Extends g t)
    (ht : t.IsUnrelatedTo g) (hs : IsScopeOf config hooks g bases s)
    (hs' : IsScopeOf config hooks g' bases' s') (ha : IsAccepted config hooks g s handlers)
    (hname : t.simpleName ∉ (candidateTypes config hooks g).map (·.simpleName)) :
    IsAccepted config hooks g' s' handlers ↔
      (isCandidate config hooks t = true → t.isEnum = false →
        IsSoundClass config hooks g' t) := by
  have hmem : t ∈ g'.types := h.mem_types_iff.2 (Or.inl rfl)
  constructor
  · intro ha' hc
    have hcandidate : t ∈ candidateTypes config hooks g' :=
      h.mem_candidateTypes_iff.2 (Or.inl ⟨rfl, hc⟩)
    exact (exists_componentOf_iff hz hs' hmem).1 (ha'.components t hcandidate)
  · intro hsound
    refine ⟨?_, ?_, ?_, ?_⟩
    · intro u hu
      rcases h.mem_candidateTypes_iff.1 hu with ⟨rfl, hc⟩ | hu
      · exact (exists_componentOf_iff hz hs' hmem).2 (hsound hc)
      · obtain ⟨schema, hschema⟩ := ha.components u hu
        exact ⟨schema, componentOf_of_extends hz h ht hs hs'
          (mem_types_of_mem_candidateTypes hu) hschema⟩
    · obtain ⟨before, after, hcandidates, hcandidates'⟩ := h.candidateTypes_eq config hooks
      have hnodup := ha.simpleNames
      rw [hcandidates, List.map_append] at hnodup hname
      rw [hcandidates']
      by_cases hc : isCandidate config hooks t = true
      · rw [if_pos hc, List.append_assoc, List.map_append]
        exact List.perm_middle.nodup_iff.2 (List.nodup_cons.2 ⟨hname, hnodup⟩)
      · rw [if_neg hc, List.append_nil, List.map_append]
        exact hnodup
    · rw [h.handlersOf_eq ht]
      exact ha.handlers
    · rw [extracted_of_extends h ht hs hs']
      exact ha.places

/-- A type that is unrelated to a graph is added, and its simple name is not that of a component.
Without interceptors the paths are as before then, and so are the components, but for one under the
simple name of the type if the type is a candidate. The graph is refused exactly if the type is a
candidate and a faulty class. -/
theorem unrelated_type_added (config : Config) (hooks : Hooks) (hz : hooks.interceptorCount = 0)
    (g g' : TypeGraph) (t : TypeDescriptor) (h : g'.Extends g t) (ht : t.IsUnrelatedTo g)
    (d : Document) (hg : (generate config hooks g).result = .ok d)
    (hname : t.simpleName ∉ d.components.keys) :
    (∀ d', (generate config hooks g').result = .ok d' →
      d'.paths = d.paths ∧
      (isCandidate config hooks t = false → d'.components = d.components) ∧
      (isCandidate config hooks t = true →
        ∃ schema, d'.components = d.components.insertSorted t.simpleName schema)) ∧
    ((∃ fault, (generate config hooks g').result = .error fault) ↔
      isCandidate config hooks t = true ∧ t.isEnum = false ∧
        IsFaultyClass config hooks g' t) := by
  obtain ⟨bases, s, handlers, hs, hh, hd⟩ := result_generate_eq_ok.1 hg
  have hnew : ∀ u ∈ g'.types, u ∈ g.types ∨ u.directives.polymorphic? = none := by
    intro u hu
    rcases h.mem_types_iff.1 hu with rfl | hu
    · exact Or.inr ht.no_base
    · exact Or.inl hu
  obtain ⟨bases', s', hs', -⟩ := (h.agreeOn ht).exists_scope hs hnew
  constructor
  · intro d' hg'
    obtain ⟨bases'', s'', handlers', hs'', hh', hd'⟩ := result_generate_eq_ok.1 hg'
    obtain rfl : handlers = handlers' := Except.ok.inj (hh.symm.trans hh')
    have hincreasing := isIncreasing_components_of_generateIn hd
    have hincreasing' := isIncreasing_components_of_generateIn hd'
    refine ⟨paths_of_extracted_eq hd hd' (extracted_of_extends h ht hs hs''), ?_, ?_⟩
    · intro hc
      refine hincreasing'.ext hincreasing ?_
      intro name
      refine get?_components_of_extends hz h ht hs hs'' hd hd' ?_
      intro hc'
      rw [hc] at hc'
      cases hc'
    · intro hc
      have hcandidate : t ∈ candidateTypes config hooks g' :=
        h.mem_candidateTypes_iff.2 (Or.inl ⟨rfl, hc⟩)
      obtain ⟨schema, -, hget⟩ := (componentsAdded_of_generateIn hd').component t hcandidate
      refine ⟨schema, hincreasing'.ext (Assoc.isIncreasing_insertSorted hincreasing _ _) ?_⟩
      intro name
      rw [Assoc.get?_insertSorted]
      by_cases heq : t.simpleName = name
      · rw [if_pos heq, ← heq, hget]
      · rw [if_neg heq]
        exact get?_components_of_extends hz h ht hs hs'' hd hd' fun _ => Ne.symm heq
  · have hfresh : t.simpleName ∉ (candidateTypes config hooks g).map (·.simpleName) := by
      have hkeys := (componentsAdded_of_generateIn hd).keys_perm
      rw [Assoc.keys_nil, List.nil_append] at hkeys
      rwa [← hkeys.mem_iff]
    have haccepted := isAccepted_of_extends hz h ht hs hs' (exists_generateIn_iff.1 ⟨d, hd⟩) hfresh
    have hgenerate : (∃ d', (generate config hooks g').result = .ok d') ↔
        ∃ d', (generateIn config hooks g' s' handlers).result = .ok d' := by
      constructor
      · rintro ⟨d', hg'⟩
        obtain ⟨bases'', s'', handlers', hs'', hh', hd'⟩ := result_generate_eq_ok.1 hg'
        obtain rfl : handlers = handlers' := Except.ok.inj (hh.symm.trans hh')
        rw [hs'.unique hs'']
        exact ⟨d', hd'⟩
      · rintro ⟨d', hd'⟩
        exact ⟨d', result_generate_eq_ok.2 ⟨bases', s', handlers, hs', hh, hd'⟩⟩
    have hfails : (∃ fault, (generate config hooks g').result = .error fault) ↔
        ¬ ∃ d', (generate config hooks g').result = .ok d' := by
      cases (generate config hooks g').result with
      | error fault => simp
      | ok d' => simp
    rw [hfails, hgenerate, exists_generateIn_iff, haccepted, isFaultyClass_iff]
    simp only [Classical.not_imp]

/-- A class that nothing in the fleet mentions. -/
def depotType : TypeDescriptor where
  name := "fleet.Depot"
  fields := [{ name := "cars", type := .list (.named "fleet.Car") }]
  superclass := some "fleet.Asset"

/-- The fleet with the depot in between. -/
def depotFleet : TypeGraph := ⟨[vehicleType, depotType, assetType, carType], by decide +kernel⟩

/-- A class that cannot be described. -/
def gridType : TypeDescriptor where
  name := "fleet.Grid"
  fields := [{ name := "rows", type := .list (.list (.named "fleet.Car")) }]

/-- The fleet with the grid at its end. -/
def gridFleet : TypeGraph := ⟨[vehicleType, assetType, carType, gridType], by decide +kernel⟩

theorem unrelated_type_added_depot :
    Hooks.none.interceptorCount = 0 ∧
    depotFleet.Extends vehicleFirst depotType ∧ depotType.IsUnrelatedTo vehicleFirst ∧
    gridFleet.Extends vehicleFirst gridType ∧ gridType.IsUnrelatedTo vehicleFirst ∧
    ∃ d, (generate fleetConfig Hooks.none vehicleFirst).result = .ok d ∧
      (∃ d' schema, (generate fleetConfig Hooks.none depotFleet).result = .ok d' ∧
        d'.paths = d.paths ∧ d'.components = d.components.insertSorted "Depot" schema) ∧
      ∃ fault, (generate fleetConfig Hooks.none gridFleet).result = .error fault := by
  have hdepot : depotFleet.Extends vehicleFirst depotType :=
    ⟨[vehicleType], [assetType, carType], rfl, rfl⟩
  have hgrid : gridFleet.Extends vehicleFirst gridType :=
    ⟨[vehicleType, assetType, carType], [], rfl, rfl⟩
  have hdepot' : depotType.IsUnrelatedTo vehicleFirst :=
    ⟨by decide +kernel, by decide +kernel, by decide +kernel, by decide +kernel⟩
  have hgrid' : gridType.IsUnrelatedTo vehicleFirst :=
    ⟨by decide +kernel, by decide +kernel, by decide +kernel, by decide +kernel⟩
  obtain ⟨d, hd⟩ := exists_eq_ok_of_toBool
    (show (generate fleetConfig Hooks.none vehicleFirst).result.toBool = true by decide +kernel)
  obtain ⟨d', hd'⟩ := exists_eq_ok_of_toBool
    (show (generate fleetConfig Hooks.none depotFleet).result.toBool = true by decide +kernel)
  have hkeys : d.components.keys = ["Asset", "Car", "Vehicle"] := by
    have hmap : (generate fleetConfig Hooks.none vehicleFirst).result.map
        (fun d => d.components.keys) = .ok ["Asset", "Car", "Vehicle"] := by decide +kernel
    rw [hd] at hmap
    exact Except.ok.inj hmap
  have hfresh : depotType.simpleName ∉ d.components.keys := by
    rw [hkeys]
    decide +kernel
  have hfresh' : gridType.simpleName ∉ d.components.keys := by
    rw [hkeys]
    decide +kernel
  obtain ⟨hpaths, -, hcomponents⟩ := (unrelated_type_added fleetConfig Hooks.none rfl vehicleFirst
    depotFleet depotType hdepot hdepot' d hd hfresh).1 d' hd'
  obtain ⟨schema, hschema⟩ := hcomponents (by decide +kernel)
  have hname : depotType.simpleName = "Depot" := by decide +kernel
  rw [hname] at hschema
  have hfault := (unrelated_type_added fleetConfig Hooks.none rfl vehicleFirst gridFleet gridType
    hgrid hgrid' d hd hfresh').2.2 ⟨by decide +kernel, by decide, ?_⟩
  · exact ⟨rfl, hdepot, hdepot', hgrid, hgrid', d, hd, ⟨d', schema, hd', hpaths, hschema⟩, hfault⟩
  · exact .field gridType (hgrid.mem_types_iff.2 (Or.inl rfl)) .refl
      { name := "rows", type := .list (.list (.named "fleet.Car")) } (List.mem_singleton.2 rfl)
      (by decide) (by decide +kernel)

end ApiContract
