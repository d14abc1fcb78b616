import ApiContract.Proofs.Generation
import ApiContract.Proofs.Origins
/-!
# Documents are closed under references

A document has one component for each candidate, and whatever refers to a type refers to the
component built from that very type. Types that are no candidates are described as objects of which
nothing is known, and are never referred to.

* `Document.HoldsComponentOf` : the component built from a type stands under its simple name.
* `references_resolve` : the statement for whole documents.
-/

namespace ApiContract

/-- A name is that of a candidate, and the component built from this type stands under its simple
name. -/
def Document.HoldsComponentOf (d : Document) (config : Config) (hooks : Hooks) (graph : TypeGraph)
    (scope : Scope) (name : String) : Prop :=
  ∃ t ∈ candidateTypes config hooks graph, t.name = name ∧
    ∃ s, (componentOf scope hooks t).result = .ok s ∧
      d.components.get? (simpleNameOf name) = some s

variable {config : Config} {hooks : Hooks} {graph : TypeGraph} {bases : PolymorphismMap}
  {scope : Scope} {d : Document}

theorem holdsComponentOf_of_isCandidateName {handlers : NamespaceMatcher}
    (h : (generateIn config hooks graph scope handlers).result = .ok d) {name : String}
    (hn : IsCandidateName config hooks graph name) :
    d.HoldsComponentOf config hooks graph scope name := by
  obtain ⟨t, ht, rfl⟩ := hn
  obtain ⟨s, hs, hget⟩ := (componentsAdded_of_generateIn h).component t ht
  exact ⟨t, ht, rfl, s, hs, hget⟩

theorem Document.HoldsComponentOf.contains {name : String}
    (h : d.HoldsComponentOf config hooks graph scope name) :
    d.components.contains (simpleNameOf name) = true := by
  obtain ⟨t, -, -, s, -, hget⟩ := h
  rw [Assoc.contains, hget]
  rfl

/-! ## Operations -/

/-- The operations of a document are rendered from methods of its graph. -/
theorem isRenderedFrom_of_generateIn (hz : hooks.interceptorCount = 0)
    {handlers : NamespaceMatcher}
    (h : (generateIn config hooks graph scope handlers).result = .ok d) :
    ∀ o ∈ d.operations, ∃ handler ∈ graph.types, ∃ m ∈ handler.methods,
      o.IsRenderedFrom scope m := by
  obtain ⟨components, operations, -, hops, hd⟩ := result_generateIn_eq_ok.1 h
  intro o ho
  rcases (result_assemble_eq_ok hd).2 o ho with ho | ho
  · cases ho
  · obtain ⟨o', ho', id, rfl⟩ := mem_withIds ho
    obtain ⟨handler, hhandler, m, hm, hr⟩ := (allOperations_meets hz _).of_ok hops o' ho'
    exact ⟨handler, (List.mem_filter.1 hhandler).1, m, hm,
      hr.parameters, hr.requestBody, hr.responses⟩

theorem Schema.IsRenderedFrom.references (h : IsScopeOf config hooks graph bases scope)
    {types : List TypeRef} {s : Schema} (hs : s.IsRenderedFrom scope types) {target : String}
    (ht : target ∈ s.references) :
    ∃ n, IsCandidateName config hooks graph n ∧ simpleNameOf n = target := by
  obtain ⟨t, -, href⟩ := hs
  rw [href, typeReferences_eq h] at ht
  obtain ⟨n, hn, hname⟩ := List.mem_map.1 ht
  exact ⟨n, isCandidateName_of_mem_origins h hn, hname⟩

theorem Operation.IsRenderedFrom.schemas {m : MethodDescriptor} {o : Operation}
    (h : o.IsRenderedFrom scope m) : ∀ s ∈ o.schemas, ∃ types, s.IsRenderedFrom scope types := by
  intro s hs
  rcases List.mem_append.1 hs with hs | hs
  · rcases List.mem_append.1 hs with hs | hs
    · obtain ⟨p, hp, rfl⟩ := List.mem_map.1 hs
      exact ⟨_, h.parameters p hp⟩
    · obtain ⟨b, hb, rfl⟩ := Option.map_eq_some_iff.1 (Option.mem_toList.1 hs)
      exact ⟨_, h.requestBody b hb⟩
  · obtain ⟨r, hr, hs⟩ := List.mem_flatMap.1 hs
    rcases List.mem_append.1 hs with hs | hs
    · exact ⟨_, (h.responses r hr).content s (Option.mem_toList.1 hs)⟩
    · obtain ⟨header, hheader, rfl⟩ := List.mem_map.1 hs
      exact ⟨_, (h.responses r hr).headers header hheader⟩

/-! ## Whole documents -/

theorem danglingIn_eq_nil {location : String} {s : Schema}
    (h : ∀ target ∈ s.references, d.components.contains target = true) :
    d.danglingIn location s = [] := by
  rw [Document.danglingIn, List.map_eq_nil_iff, List.filter_eq_nil_iff]
  intro target ht
  rw [h target ht]
  decide

/-- No reference of a generated document dangles. -/
theorem danglingReferences_of_generateIn (hz : hooks.interceptorCount = 0)
    (h : IsScopeOf config hooks graph bases scope) {handlers : NamespaceMatcher}
    (hd : (generateIn config hooks graph scope handlers).result = .ok d) :
    d.danglingReferences = [] := by
  have hcontains : ∀ n, IsCandidateName config hooks graph n →
      d.components.contains (simpleNameOf n) = true :=
    fun n hn => (holdsComponentOf_of_isCandidateName hd hn).contains
  rw [Document.danglingReferences, List.append_eq_nil_iff, List.flatMap_eq_nil_iff,
    List.flatMap_eq_nil_iff]
  constructor
  · rintro ⟨name, s⟩ hmem
    refine danglingIn_eq_nil fun target ht => ?_
    obtain ⟨t, htype, rfl, hs⟩ := (componentsAdded_of_generateIn hd).exists_type hmem
    rw [references_componentOf hz h hs] at ht
    obtain ⟨n, hn, rfl⟩ := List.mem_map.1 ht
    exact hcontains n (isCandidateName_of_mem_componentOrigins h
      (mem_types_of_mem_candidateTypes htype) hn)
  · intro o ho
    obtain ⟨handler, -, m, -, hr⟩ := isRenderedFrom_of_generateIn hz hd o ho
    refine List.flatMap_eq_nil_iff.2 fun s hs => danglingIn_eq_nil fun target ht => ?_
    obtain ⟨types, hs⟩ := hr.schemas s hs
    obtain ⟨n, hn, rfl⟩ := hs.references h ht
    exact hcontains n hn

theorem schema?_of_not_candidate (h : IsScopeOf config hooks graph bases scope)
    (style : ReferenceStyle) {t : TypeRef} {name : String} (ht : t.leaf = .named name)
    (hn : ¬ IsCandidateName config hooks graph name) :
    schema? scope style t = some (t.wrap .genericObject) := by
  rw [schema?, ht, leafNode?, namedNode, h.component?_eq_none_iff.2 hn]
  rfl

/-- A document has exactly one component for each candidate, under the simple name of its type. No
reference dangles. The references of a component, and those of the parameters, request bodies,
responses and headers of an operation, are the simple names of the types that they were made for,
and each of these names holds the component built from that type. A type that is no candidate gives
an object of which nothing is known, inside of its lists, arrays and tables, and no reference. -/
theorem references_resolve (hz : hooks.interceptorCount = 0)
    (hd : (generate config hooks graph).result = .ok d) :
    ∃ bases scope, IsScopeOf config hooks graph bases scope ∧
      ((candidateTypes config hooks graph).map (·.simpleName)).Nodup ∧
      d.components.keys.Perm ((candidateTypes config hooks graph).map (·.simpleName)) ∧
      d.danglingReferences = [] ∧
      (∀ t ∈ candidateTypes config hooks graph, ∃ s,
        d.components.get? t.simpleName = some s ∧ (componentOf scope hooks t).result = .ok s ∧
        s.references = (componentOrigins scope t).map simpleNameOf ∧
        ∀ n ∈ componentOrigins scope t, d.HoldsComponentOf config hooks graph scope n) ∧
      (∀ o ∈ d.operations, ∃ handler ∈ graph.types, ∃ m ∈ handler.methods,
        o.IsRenderedFrom scope m) ∧
      (∀ t : TypeRef, typeReferences scope t = (t.origins scope .direct).map simpleNameOf ∧
        ∀ n ∈ t.origins scope .direct, d.HoldsComponentOf config hooks graph scope n) ∧
      (∀ (t : TypeRef) (style : ReferenceStyle) (name : String), t.leaf = .named name →
        ¬ IsCandidateName config hooks graph name → t.nested? = none →
        (schemaOf scope style t).result = .ok (some (t.wrap .genericObject)) ∧
          (t.wrap .genericObject).references = []) := by
  obtain ⟨bases, scope, handlers, h, -, hd⟩ := result_generate_eq_ok.1 hd
  have hadded := componentsAdded_of_generateIn hd
  refine ⟨bases, scope, h, hadded.nodup_simpleNames, by simpa using hadded.keys_perm,
    danglingReferences_of_generateIn hz h hd, ?_, isRenderedFrom_of_generateIn hz hd, ?_, ?_⟩
  · intro t ht
    obtain ⟨s, hs, hget⟩ := hadded.component t ht
    refine ⟨s, hget, hs, references_componentOf hz h hs, fun n hn => ?_⟩
    exact holdsComponentOf_of_isCandidateName hd
      (isCandidateName_of_mem_componentOrigins h (mem_types_of_mem_candidateTypes ht) hn)
  · intro t
    refine ⟨typeReferences_eq h t, fun n hn => ?_⟩
    exact holdsComponentOf_of_isCandidateName hd (isCandidateName_of_mem_origins h hn)
  · intro t style name ht hn hnested
    refine ⟨?_, by rw [TypeRef.references_wrap, Schema.references_genericObject]⟩
    exact result_schemaOf_eq_ok.2 ⟨hnested, (schema?_of_not_candidate h style ht hn).symm⟩

/-- The configuration of a drawing program. -/
def drawingConfig : Config :=
  { modelNamespaces := ["draw.model"], handlerNamespaces := ["draw.web"] }

/-- Drawings of shapes, one of which is excluded though the base lists it. -/
def drawingGraph : TypeGraph where
  types := [
    { name := "draw.model.Shape"
      directives := [.polymorphic none [⟨"draw.model.Circle", none⟩, ⟨"draw.model.Draft", none⟩]] },
    { name := "draw.model.Circle", superclass := some "draw.model.Shape" },
    { name := "draw.model.Draft", superclass := some "draw.model.Shape", directives := [.exclude] },
    { name := "draw.model.Drawing"
      fields := [{ name := "shapes", type := .list (.named "draw.model.Shape") },
        { name := "draft", type := .named "draw.model.Draft" }] },
    { name := "draw.web.Drawings"
      methods := [{ name := "find", returns := .map (.named "draw.model.Drawing")
                    directives := [.route (.ofPath "/drawings" [.get])] }] }]
  nodup_names := by decide +kernel

theorem references_resolve_drawing :
    Hooks.none.interceptorCount = 0 ∧
      ∃ d, (generate drawingConfig Hooks.none drawingGraph).result = .ok d ∧
        d.components.keys.Perm ["Shape", "Circle", "Drawing"] ∧ d.danglingReferences = [] := by
  obtain ⟨d, hd⟩ := exists_eq_ok_of_toBool
    (show (generate drawingConfig Hooks.none drawingGraph).result.toBool = true by decide +kernel)
  have hcandidates : (candidateTypes drawingConfig Hooks.none drawingGraph).map (·.simpleName) =
      ["Shape", "Circle", "Drawing"] := by decide +kernel
  obtain ⟨bases, scope, -, -, hkeys, hdangling, -⟩ := references_resolve rfl hd
  exact ⟨rfl, d, hd, hcandidates ▸ hkeys, hdangling⟩

end ApiContract
