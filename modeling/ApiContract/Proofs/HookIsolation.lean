import ApiContract.Proofs.ComponentSteps
import ApiContract.Proofs.FaultyDeclarations
/-!
# Kinds of hooks do not interfere

Hooks that take part in components have no influence on operations, and hooks that take part in
operations have none on components, as long as the same types are part of the generation. A hook
that only changes one field of one type has no influence beyond the property of this field in the
components that the type is part of.

* `Hooks.SameForComponents`, `Hooks.SameForOperations` : pipelines that share hooks.
* `components_of_sameForComponents`, `paths_of_sameForOperations` : what they have in common then.
* `ChangesOnly`, `IsMadeFrom` : a hook for one field, and the components that can notice it.
* `component_of_changesOnly` : what such a hook changes.
* `hook_kinds_isolated` : all of it.
-/

namespace ApiContract

open Relation
open Traced (Paired)

/-! ## Pipelines that share hooks -/

namespace Hooks

/-- Two pipelines have the same interceptors for schemas and for fields. -/
structure SameForComponents (h h' : Hooks) : Prop where
  schemaInterceptors : h.schemaInterceptors = h'.schemaInterceptors
  fieldInterceptors : h.fieldInterceptors = h'.fieldInterceptors

/-- Two pipelines have the same interceptors for operations, parameters and request bodies, and the
same filters of operations and parameters. -/
structure SameForOperations (h h' : Hooks) : Prop where
  operationInterceptors : h.operationInterceptors = h'.operationInterceptors
  parameterInterceptors : h.parameterInterceptors = h'.parameterInterceptors
  requestBodyInterceptors : h.requestBodyInterceptors = h'.requestBodyInterceptors
  operationFilters : h.operationFilters = h'.operationFilters
  parameterFilters : h.parameterFilters = h'.parameterFilters

theorem SameForOperations.symm {h h' : Hooks} (hs : h.SameForOperations h') :
    h'.SameForOperations h :=
  ⟨hs.operationInterceptors.symm, hs.parameterInterceptors.symm, hs.requestBodyInterceptors.symm,
    hs.operationFilters.symm, hs.parameterFilters.symm⟩

/-- The pipeline with one interceptor of fields and nothing else. -/
def ofField (intercept : Scope → TypeDescriptor → FieldDescriptor → Property → Property) : Hooks :=
  { fieldInterceptors := [intercept] }

theorem none_sameForOperations_ofField
    (intercept : Scope → TypeDescriptor → FieldDescriptor → Property → Property) :
    none.SameForOperations (ofField intercept) :=
  ⟨rfl, rfl, rfl, rfl, rfl⟩

end Hooks

variable {config : Config} {graph : TypeGraph} {bases : PolymorphismMap} {s : Scope}
  {handlers : NamespaceMatcher} {h h' : Hooks} {d d' : Document}

theorem candidateTypes_of_typeFilters (hf : h.typeFilters = h'.typeFilters) :
    candidateTypes config h graph = candidateTypes config h' graph := by
  unfold candidateTypes isCandidate Hooks.includesType
  rw [hf]

/-- The same types are part of the generation, so that its scope is the same. -/
theorem IsScopeOf.of_typeFilters (hf : h.typeFilters = h'.typeFilters)
    (hs : IsScopeOf config h graph bases s) : IsScopeOf config h' graph bases s where
  graph_eq := hs.graph_eq
  namespaces_eq := hs.namespaces_eq
  bases_eq := by
    have hbases := hs.bases_eq
    rw [result_polymorphicBases hs.namespaces_eq] at hbases ⊢
    rwa [← candidateTypes_of_typeFilters hf]
  polymorphism_eq := hs.polymorphism_eq
  components_eq := by
    rw [← candidateTypes_of_typeFilters hf]
    exact hs.components_eq
  rootTypes_eq := hs.rootTypes_eq

/-- Both pipelines generate in one scope. -/
theorem exists_generateIn_of_generate (hf : h.typeFilters = h'.typeFilters)
    (hg : (generate config h graph).result = .ok d)
    (hg' : (generate config h' graph).result = .ok d') :
    ∃ bases s handlers, IsScopeOf config h graph bases s ∧
      (generateIn config h graph s handlers).result = .ok d ∧
      (generateIn config h' graph s handlers).result = .ok d' := by
  obtain ⟨bases, s, handlers, hs, hh, hd⟩ := result_generate_eq_ok.1 hg
  obtain ⟨bases', s', handlers', hs', hh', hd'⟩ := result_generate_eq_ok.1 hg'
  obtain rfl : handlers = handlers' := Except.ok.inj (hh.symm.trans hh')
  obtain rfl : s = s' := (hs.of_typeFilters hf).unique hs'
  exact ⟨bases, s, handlers, hs, hd, hd'⟩

/-! ## Components -/

/-- Where the interceptors of fields do the same, equal objects stay equal. -/
theorem isKept_eq {owners : TypeDescriptor → Prop}
    (hsame : ∀ owner field p, owners owner →
      h.interceptField s owner field p = h'.interceptField s owner field p) :
    IsKept s h h' owners Eq where
  empty := rfl
  insert := by
    rintro owner field p o _ howner rfl
    unfold ObjectShape.insertIntercepted
    rw [hsame owner field p howner]
  addBase := by
    rintro b o _ rfl
    rfl

theorem components_of_sameForComponents (hf : h.typeFilters = h'.typeFilters)
    (hc : h.SameForComponents h') (hd : (generateIn config h graph s handlers).result = .ok d)
    (hd' : (generateIn config h' graph s handlers).result = .ok d') :
    d.components = d'.components := by
  have hkept : IsKept s h h' (fun _ => True) Eq := isKept_eq fun owner field p _ => by
    unfold Hooks.interceptField
    rw [hc.fieldInterceptors]
  have hschema : ∀ t a b, Schema.Resembles Eq a b →
      h.interceptSchema s t a = h'.interceptSchema s t b := by
    intro t a b hab
    unfold Hooks.interceptSchema
    rw [hc.schemaInterceptors, hab.eq]
  refine (isIncreasing_components_of_generateIn hd).ext
    (isIncreasing_components_of_generateIn hd') ?_
  intro name
  refine (componentsAdded_of_generateIn hd).get?_eq (componentsAdded_of_generateIn hd') ?_ ?_
  · intro t _
    rw [candidateTypes_of_typeFilters hf]
  · intro t _ schema hschema'
    have hpaired : Paired Eq (componentOf s h t) (componentOf s h' t) :=
      hkept.componentOf_paired (fun _ _ _ _ => trivial) (hschema t)
    exact hpaired.result_eq.symm.trans hschema'

/-! ## Operations -/

section

variable (hs : h.SameForOperations h')

include hs

theorem isIncludedParameter_of_sameForOperations (m : MethodDescriptor) (p : ParameterDescriptor) :
    isIncludedParameter h m p = isIncludedParameter h' m p := by
  unfold isIncludedParameter Hooks.includesParameter
  rw [hs.parameterFilters]

theorem includedRoute?_of_sameForOperations (handler : TypeDescriptor) (m : MethodDescriptor) :
    includedRoute? h handler m = includedRoute? h' handler m := by
  unfold includedRoute? Hooks.includesOperation
  rw [hs.operationFilters]

theorem bodyPlace?_of_sameForOperations (m : MethodDescriptor) :
    bodyPlace? h m = bodyPlace? h' m := by
  unfold bodyPlace? bodyBoundPlaces firstFilePlace?
  simp only [isIncludedParameter_of_sameForOperations hs]

theorem listedParameter?_of_sameForOperations (m : MethodDescriptor) (p : ParameterDescriptor) :
    listedParameter? s h m p = listedParameter? s h' m p := by
  unfold listedParameter? producedParameter Hooks.interceptParameter
  simp only [isIncludedParameter_of_sameForOperations hs, hs.parameterInterceptors]

theorem requestBody?_of_sameForOperations (m : MethodDescriptor) (route : Route)
    (p : ParameterDescriptor) : requestBody? s h m route p = requestBody? s h' m route p := by
  unfold requestBody? Hooks.interceptRequestBody
  rw [hs.requestBodyInterceptors]

theorem methodOperations_of_sameForOperations (handler : TypeDescriptor) (m : MethodDescriptor)
    (route : Route) :
    methodOperations s h handler m route = methodOperations s h' handler m route := by
  have htemplate : methodTemplate s h handler m route = methodTemplate s h' handler m route := by
    have hbody : requestBody? s h m route = requestBody? s h' m route :=
      funext (requestBody?_of_sameForOperations hs m route)
    unfold methodTemplate listedParameters
    simp only [bodyPlace?_of_sameForOperations hs, listedParameter?_of_sameForOperations hs, hbody]
  have hoperation : ∀ path verb,
      operationAt h handler m route (methodTemplate s h handler m route) path verb =
        operationAt h' handler m route (methodTemplate s h' handler m route) path verb := by
    intro path verb
    unfold operationAt Hooks.interceptOperation
    rw [hs.operationInterceptors, htemplate]
  unfold methodOperations
  simp only [hoperation]

theorem handlerOperations_of_sameForOperations (handler : TypeDescriptor) :
    handlerOperations s h handler = handlerOperations s h' handler := by
  have hmethod : ∀ m, methodOperations s h handler m = methodOperations s h' handler m := fun m =>
    funext (methodOperations_of_sameForOperations hs handler m)
  unfold handlerOperations
  simp only [includedRoute?_of_sameForOperations hs, hmethod]

theorem isSoundHandler_of_sameForOperations {handler : TypeDescriptor}
    (hsound : IsSoundHandler h handler) : IsSoundHandler h' handler := by
  refine ⟨hsound.base, ?_⟩
  intro m hm route hroute
  rw [← includedRoute?_of_sameForOperations hs] at hroute
  obtain ⟨hverbs, hbody, hparameters, hresponses, hcodes⟩ := hsound.methods m hm route hroute
  refine ⟨hverbs, ?_, ?_, hresponses, hcodes⟩
  · simpa only [isIncludedParameter_of_sameForOperations hs] using hbody
  · simpa only [isIncludedParameter_of_sameForOperations hs] using hparameters

theorem paths_of_sameForOperations (hd : (generateIn config h graph s handlers).result = .ok d)
    (hd' : (generateIn config h' graph s handlers).result = .ok d') : d.paths = d'.paths := by
  have hsame : handlerOperations s h = handlerOperations s h' :=
    funext (handlerOperations_of_sameForOperations hs)
  refine paths_of_extracted_eq hd' hd ?_
  rw [hsame]

/-- What one pipeline accepts is accepted by another one, if it is so for each component. -/
theorem isAccepted_of_sameForOperations (hf : h.typeFilters = h'.typeFilters)
    (hcomponents : ∀ t schema, (componentOf s h t).result = .ok schema →
      ∃ schema', (componentOf s h' t).result = .ok schema')
    (ha : IsAccepted config h graph s handlers) : IsAccepted config h' graph s handlers := by
  have hsame : handlerOperations s h = handlerOperations s h' :=
    funext (handlerOperations_of_sameForOperations hs)
  refine ⟨?_, ?_, ?_, ?_⟩
  · intro t ht
    rw [← candidateTypes_of_typeFilters hf] at ht
    obtain ⟨schema, hschema⟩ := ha.components t ht
    exact hcomponents t schema hschema
  · rw [← candidateTypes_of_typeFilters hf]
    exact ha.simpleNames
  · intro t ht hx
    exact isSoundHandler_of_sameForOperations hs (ha.handlers t ht hx)
  · rw [← hsame]
    exact ha.places

theorem exists_generate_of_sameForOperations (hf : h.typeFilters = h'.typeFilters)
    (hcomponents : ∀ s t schema, (componentOf s h t).result = .ok schema →
      ∃ schema', (componentOf s h' t).result = .ok schema')
    (hg : (generate config h graph).result = .ok d) :
    ∃ d', (generate config h' graph).result = .ok d' := by
  obtain ⟨bases, s, handlers, hscope, hh, hd⟩ := result_generate_eq_ok.1 hg
  have haccepted := isAccepted_of_sameForOperations hs hf (hcomponents s)
    (exists_generateIn_iff.1 ⟨d, hd⟩)
  obtain ⟨d', hd'⟩ := exists_generateIn_iff.2 haccepted
  exact ⟨d', result_generate_eq_ok.2 ⟨bases, s, handlers, hscope.of_typeFilters hf, hh, hd'⟩⟩

end

/-! ## A hook for one field -/

/-- An interceptor leaves all properties alone but those of the fields of one name that one type
declares. -/
def ChangesOnly (intercept : Scope → TypeDescriptor → FieldDescriptor → Property → Property)
    (type field : String) : Prop :=
  ∀ scope owner f p, ¬ (owner.name = type ∧ f.name = field) → intercept scope owner f p = p

/-- The fields of a type are among those of a class: the type is the class itself, or a superclass
that is copied into it. -/
def IsMadeFrom (config : Config) (graph : TypeGraph) (t : TypeDescriptor) (type : String) : Prop :=
  ∃ u ∈ graph.types, u.name = type ∧
    ReflTransGen (IsCopiedLink config .none graph) t.name u.name

/-- A class without a superclass is made from itself only. -/
theorem IsMadeFrom.name_eq {t : TypeDescriptor} {type : String} (ht : t ∈ graph.types)
    (htop : t.superclass = none) (hmade : IsMadeFrom config graph t type) : t.name = type := by
  obtain ⟨u, -, rfl, hlinks⟩ := hmade
  rcases hlinks.cases_head with hname | ⟨b, ⟨hsuper, -⟩, -⟩
  · exact hname
  · have hb := ((isSuperclass_iff ht).1 hsuper).1
    rw [htop] at hb
    cases hb

section

variable {intercept : Scope → TypeDescriptor → FieldDescriptor → Property → Property}
  {type field : String} (hi : ChangesOnly intercept type field)

include hi

theorem interceptField_ofField {owner : TypeDescriptor} {f : FieldDescriptor} (p : Property)
    (hother : ¬ (owner.name = type ∧ f.name = field)) :
    Hooks.none.interceptField s owner f p = (Hooks.ofField intercept).interceptField s owner f p :=
  (hi s owner f p hother).symm

/-- Objects differ at most in the property of the field. -/
theorem isKept_equalBut :
    IsKept s .none (.ofField intercept) (fun _ => True) (ObjectShape.EqualBut field) where
  empty := ⟨.nil, rfl, rfl, rfl⟩
  insert := by
    intro owner f p o o' _ ho
    refine ho.insertProperty f.name ?_
    intro hname
    exact interceptField_ofField hi p fun hboth => hname hboth.2
  addBase := fun b _ _ ho => ho.addTo b

/-- In any scope components differ at most in the property of the field. -/
theorem component_resembles (t : TypeDescriptor) :
    Paired (Schema.Resembles (ObjectShape.EqualBut field))
      (componentOf s .none t) (componentOf s (.ofField intercept) t) :=
  (isKept_equalBut hi).componentOf_paired (fun _ _ _ _ => trivial) fun _ _ hab => hab

/-- What such a hook changes: in the component of a class at most the property of the field, and
nothing unless the class is made from the type. -/
theorem component_of_changesOnly (hs : IsScopeOf config .none graph bases s) {t : TypeDescriptor}
    (ht : t ∈ graph.types) :
    Paired (fun a b => a.Resembles (ObjectShape.EqualBut field) b ∧
        (¬ IsMadeFrom config graph t type → a = b))
      (componentOf s .none t) (componentOf s (.ofField intercept) t) := by
  by_cases hmade : IsMadeFrom config graph t type
  · rcases (component_resembles hi t).cases with ⟨a, b, ha, hb, hab⟩ | ⟨fault, ha, hb⟩
    · exact .of_ok ha hb ⟨hab, fun hnot => absurd hmade hnot⟩
    · exact .of_error ha hb
  · -- no owner of a field is the type, so that the hook never does anything
    have hkept : IsKept s .none (.ofField intercept) (fun u => u.name ≠ type) Eq :=
      isKept_eq fun owner f p howner => interceptField_ofField hi p fun hboth => howner hboth.1
    have howners : ∀ ancestry, (resolveAncestry s t).result = .ok ancestry →
        ∀ u, u = t ∨ u ∈ ancestry.flattened → u.name ≠ type := by
      intro ancestry ha u hu hname
      obtain ⟨hmem, hlinks⟩ := (eq_or_mem_flattened_iff hs ht ha).1 hu
      exact hmade ⟨u, hmem, hname, hlinks⟩
    have hequal : Paired Eq (componentOf s .none t) (componentOf s (.ofField intercept) t) :=
      hkept.componentOf_paired howners fun _ _ hab => hab.eq
    rcases hequal.cases with ⟨a, b, ha, hb, rfl⟩ | ⟨fault, ha, hb⟩
    · exact .of_ok ha hb ⟨.same a, fun _ => rfl⟩
    · exact .of_error ha hb

/-- With or without such a hook, generation succeeds for the same graphs. -/
theorem exists_generate_ofField_iff :
    (∃ d, (generate config .none graph).result = .ok d) ↔
      ∃ d', (generate config (.ofField intercept) graph).result = .ok d' := by
  have hsame := Hooks.none_sameForOperations_ofField intercept
  constructor
  · rintro ⟨d, hg⟩
    refine exists_generate_of_sameForOperations hsame rfl ?_ hg
    intro s t schema hschema
    obtain ⟨schema', hschema', -⟩ := (component_resembles hi t).exists_of_ok hschema
    exact ⟨schema', hschema'⟩
  · rintro ⟨d', hg'⟩
    refine exists_generate_of_sameForOperations hsame.symm rfl ?_ hg'
    intro s t schema hschema
    obtain ⟨schema', hschema', -⟩ := (component_resembles hi t).flip.exists_of_ok hschema
    exact ⟨schema', hschema'⟩

/-- What such a hook changes in a document. -/
theorem document_of_changesOnly (hs : IsScopeOf config .none graph bases s)
    (hd : (generateIn config .none graph s handlers).result = .ok d)
    (hd' : (generateIn config (.ofField intercept) graph s handlers).result = .ok d') :
    d.paths = d'.paths ∧ d.components.keys = d'.components.keys ∧
      ∀ t ∈ candidateTypes config .none graph, ∃ schema schema',
        d.components.get? t.simpleName = some schema ∧
        d'.components.get? t.simpleName = some schema' ∧
        schema.Resembles (ObjectShape.EqualBut field) schema' ∧
        (¬ IsMadeFrom config graph t type → schema = schema') := by
  have hsame := Hooks.none_sameForOperations_ofField intercept
  have hcandidates : candidateTypes config .none graph =
      candidateTypes config (.ofField intercept) graph := candidateTypes_of_typeFilters rfl
  refine ⟨paths_of_sameForOperations hsame hd hd', ?_, ?_⟩
  · exact keys_components_eq hd hd' (.of_eq hcandidates)
  · intro t ht
    have ht' : t ∈ candidateTypes config (.ofField intercept) graph := hcandidates ▸ ht
    obtain ⟨schema, hschema, hget⟩ := (componentsAdded_of_generateIn hd).component t ht
    obtain ⟨schema', hschema', hget'⟩ := (componentsAdded_of_generateIn hd').component t ht'
    have hpaired := component_of_changesOnly hi hs (mem_types_of_mem_candidateTypes ht)
    obtain ⟨b, hb, hresembles, hequal⟩ := hpaired.exists_of_ok hschema
    obtain rfl : schema' = b := Except.ok.inj (hschema'.symm.trans hb)
    exact ⟨schema, schema', hget, hget', hresembles, hequal⟩

end

/-! ## Isolation -/

/-- Two pipelines have the same filters of types. If they have the same interceptors for components
too, the components of their documents are equal; if they have the same hooks for operations, the
paths are. A hook for one field of one type leaves what is refused, the paths and the names of the
components as they are without hooks. Every component keeps its schema, but for the property of the
field where the component is made from the type. -/
theorem hook_kinds_isolated (config : Config) (graph : TypeGraph) :
    (∀ h h' : Hooks, h.typeFilters = h'.typeFilters → h.SameForComponents h' →
      ∀ d d', (generate config h graph).result = .ok d →
        (generate config h' graph).result = .ok d' → d.components = d'.components) ∧
    (∀ h h' : Hooks, h.typeFilters = h'.typeFilters → h.SameForOperations h' →
      ∀ d d', (generate config h graph).result = .ok d →
        (generate config h' graph).result = .ok d' → d.paths = d'.paths) ∧
    ∀ intercept type field, ChangesOnly intercept type field →
      ((∃ d, (generate config .none graph).result = .ok d) ↔
        ∃ d', (generate config (.ofField intercept) graph).result = .ok d') ∧
      ∀ d d', (generate config .none graph).result = .ok d →
        (generate config (.ofField intercept) graph).result = .ok d' →
        d.paths = d'.paths ∧ d.components.keys = d'.components.keys ∧
          ∀ t ∈ candidateTypes config .none graph, ∃ schema schema',
            d.components.get? t.simpleName = some schema ∧
            d'.components.get? t.simpleName = some schema' ∧
            schema.Resembles (ObjectShape.EqualBut field) schema' ∧
            (¬ IsMadeFrom config graph t type → schema = schema') := by
  refine ⟨?_, ?_, ?_⟩
  · intro h h' hf hc d d' hg hg'
    obtain ⟨bases, s, handlers, -, hd, hd'⟩ := exists_generateIn_of_generate hf hg hg'
    exact components_of_sameForComponents hf hc hd hd'
  · intro h h' hf ho d d' hg hg'
    obtain ⟨bases, s, handlers, -, hd, hd'⟩ := exists_generateIn_of_generate hf hg hg'
    exact paths_of_sameForOperations ho hd hd'
  · intro intercept type field hi
    refine ⟨exists_generate_ofField_iff hi, ?_⟩
    intro d d' hg hg'
    have hf : Hooks.none.typeFilters = (Hooks.ofField intercept).typeFilters := rfl
    obtain ⟨bases, s, handlers, hs, hd, hd'⟩ := exists_generateIn_of_generate hf hg hg'
    exact document_of_changesOnly hi hs hd hd'

/-- Makes a field of one type required. -/
def requireField (type field : String) (_ : Scope) (owner : TypeDescriptor)
    (f : FieldDescriptor) (p : Property) : Property :=
  if owner.name = type ∧ f.name = field then { p with required := true } else p

theorem changesOnly_requireField (type field : String) :
    ChangesOnly (requireField type field) type field := by
  intro scope owner f p hother
  exact if_neg hother

/-- Gives every operation the same identifier. -/
def renamingHooks : Hooks :=
  { operationInterceptors := [fun _ _ operation => { operation with id := "handle" }] }

/-- A class that is copied into vans. -/
def insuredType : TypeDescriptor where
  name := "shared.Insured"
  fields := [{ name := "insurer", type := .primitive .string true }]

def vanType : TypeDescriptor where
  name := "vans.Van"
  fields := [{ name := "seats", type := .primitive .int32 false }]
  superclass := some "shared.Insured"

def garageType : TypeDescriptor where
  name := "vans.Garage"
  fields := [{ name := "insurer", type := .primitive .string true },
    { name := "vans", type := .list (.named "vans.Van") }]

def vanHandler : TypeDescriptor where
  name := "web.Vans"
  directives := [.route (.base "/vans")]
  methods := [{ name := "find", directives := [.route { verbs := [.get] }] }]

def vanConfig : Config := { modelNamespaces := ["vans"], handlerNamespaces := ["web"] }

def vanGraph : TypeGraph := ⟨[insuredType, vanType, garageType, vanHandler], by decide +kernel⟩

/-- The identifier of the operation on vans, and what a van requires. -/
def vanFacts (d : Document) : Option String × Option (List String) :=
  ((d.operation? "/vans" .get).map (·.id),
    ((d.components.get? "Van").bind Schema.asObject?).map (·.required))

theorem hook_kinds_isolated_vans :
    ∃ d renamed required, (generate vanConfig .none vanGraph).result = .ok d ∧
      (generate vanConfig renamingHooks vanGraph).result = .ok renamed ∧
      (generate vanConfig (.ofField (requireField "shared.Insured" "insurer")) vanGraph).result =
        .ok required ∧
      d.components = renamed.components ∧ d.paths = required.paths ∧
      d.components.get? "Garage" = required.components.get? "Garage" ∧
      vanFacts d = (some "findUsingGET", some ["seats"]) ∧
      vanFacts renamed = (some "handle", some ["seats"]) ∧
      vanFacts required = (some "findUsingGET", some ["insurer", "seats"]) := by
  obtain ⟨hcomponents, hpaths, hfield⟩ := hook_kinds_isolated vanConfig vanGraph
  have hsame := Hooks.none_sameForOperations_ofField (requireField "shared.Insured" "insurer")
  obtain ⟨-, hall⟩ := hfield _ "shared.Insured" "insurer" (changesOnly_requireField _ _)
  have hplain : (generate vanConfig .none vanGraph).result.map vanFacts =
      .ok (some "findUsingGET", some ["seats"]) := by decide +kernel
  have hrenaming : (generate vanConfig renamingHooks vanGraph).result.map vanFacts =
      .ok (some "handle", some ["seats"]) := by decide +kernel
  have hrequiring : (generate vanConfig (.ofField (requireField "shared.Insured" "insurer"))
      vanGraph).result.map vanFacts = .ok (some "findUsingGET", some ["insurer", "seats"]) := by
    decide +kernel
  obtain ⟨d, hd, hfacts⟩ := exceptMap_eq_ok.1 hplain
  obtain ⟨renamed, hrenamed, hfactsRenamed⟩ := exceptMap_eq_ok.1 hrenaming
  obtain ⟨required, hrequired, hfactsRequired⟩ := exceptMap_eq_ok.1 hrequiring
  have hgarage : d.components.get? "Garage" = required.components.get? "Garage" := by
    have hcandidate : garageType ∈ candidateTypes vanConfig .none vanGraph := by decide +kernel
    have hother : ¬ IsMadeFrom vanConfig vanGraph garageType "shared.Insured" := by
      intro hmade
      exact absurd (hmade.name_eq (mem_types_of_mem_candidateTypes hcandidate) rfl) (by decide)
    have hname : garageType.simpleName = "Garage" := by decide +kernel
    obtain ⟨-, -, hschemas⟩ := hall d required hd hrequired
    obtain ⟨schema, schema', hget, hget', -, hequal⟩ := hschemas garageType hcandidate
    rw [hname] at hget hget'
    rw [hget, hget', hequal hother]
  exact ⟨d, renamed, required, hd, hrenamed, hrequired,
    hcomponents .none renamingHooks rfl ⟨rfl, rfl⟩ d renamed hd hrenamed,
    hpaths .none (.ofField _) rfl hsame d required hd hrequired, hgarage, hfacts, hfactsRenamed,
    hfactsRequired⟩

end ApiContract
