import ApiContract.Proofs.OperationPlaces
/-!
# Payloads

A schema in an operation is made from a type that its method declares: it is the plain schema of the
type, refined by directives. Besides there are files, forms of files, and headers whose type has no
schema.

* `MethodDescriptor.declaredTypes` : the types of the parameters, the responses and their headers.
* `Schema.IsPayload` : a schema is made from one of some types.
* `isPayload_methodTemplate` : parameters, request body and responses in turn.
* `isPayload_operation` : the schemas of all operations of a document.
-/

namespace ApiContract

/-- The types that a method declares for its parameters, its responses and their headers. -/
def MethodDescriptor.declaredTypes (m : MethodDescriptor) : List TypeRef :=
  m.parameterTypes ++ m.responseTypes ++ m.headerTypes

/-- A schema with the contents of the plain schema of one of some types, or with those of a file, of a
form of files or of a text. -/
inductive Schema.IsPayload (scope : Scope) (types : List TypeRef) (s : Schema) : Prop
  | typed {t : TypeRef} {plain : Schema} (ht : t ∈ types) (hn : t.nested? = none)
      (hs : schema? scope .direct t = some plain) (hc : s.contents = plain.contents)
  | file (hc : s.contents = Schema.binary.contents)
  | files (name : String) (hc : s.contents = (Schema.object
      (ObjectShape.insertProperty {} name (.array .binary) false)).contents)
  | text (hc : s.contents = Schema.text.contents)

variable {config : Config} {hooks : Hooks} {graph : TypeGraph} {scope : Scope}

namespace Schema.IsPayload

variable {types types' : List TypeRef} {s s' : Schema}

theorem congr (h : s.IsPayload scope types) (hc : s'.contents = s.contents) :
    s'.IsPayload scope types := by
  cases h with
  | typed ht hn hs hc' => exact .typed ht hn hs (hc.trans hc')
  | file hc' => exact .file (hc.trans hc')
  | files name hc' => exact .files name (hc.trans hc')
  | text hc' => exact .text (hc.trans hc')

theorem mono (h : s.IsPayload scope types) (hle : types ⊆ types') : s.IsPayload scope types' := by
  cases h with
  | typed ht hn hs hc => exact .typed (hle ht) hn hs hc
  | file hc => exact .file hc
  | files name hc => exact .files name hc
  | text hc => exact .text hc

end Schema.IsPayload

theorem mem_declaredTypes_of_parameter {m : MethodDescriptor} {p : ParameterDescriptor}
    (h : p ∈ m.parameters) : p.type ∈ m.declaredTypes :=
  List.mem_append_left _ (List.mem_append_left _ (List.mem_map_of_mem h))

/-! ## Parameters -/

theorem isPayload_producedParameter (hz : hooks.interceptorCount = 0) {m : MethodDescriptor}
    {p : ParameterDescriptor} {types : List TypeRef} {s : Schema} (ht : p.type ∈ types)
    (hn : p.type.nested? = none) (hs : schema? scope .direct p.type = some s) (binding : Binding)
    (location : ParameterLocation) :
    (producedParameter hooks m p binding location s).schema.IsPayload scope types := by
  rw [producedParameter, Hooks.interceptParameter_eq hz]
  exact .typed ht hn hs (Schema.contents_applyTo p.directives s)

theorem isPayload_listedParameters (hz : hooks.interceptorCount = 0) {m : MethodDescriptor}
    {route : Route} (hm : IsSoundMethod hooks m route) (body : Option Nat) {q : Parameter}
    (hq : q ∈ listedParameters scope hooks m body m.parameters.zipIdx) :
    q.schema.IsPayload scope m.declaredTypes := by
  obtain ⟨⟨p, i⟩, hplace, hlisted⟩ := List.mem_filterMap.1 hq
  have hp : p ∈ m.parameters :=
    List.mem_of_getElem? (List.mk_mem_zipIdx_iff_getElem?.1 (List.mem_filter.1 hplace).1)
  obtain ⟨⟨binding, location⟩, hlisting, hlisted⟩ := Option.bind_eq_some_iff.1 hlisted
  cases hincluded : isIncludedParameter hooks m p with
  | false => simp [hincluded] at hlisted
  | true =>
    simp only [hincluded, if_true, Option.map_eq_some_iff] at hlisted
    obtain ⟨s, hs, rfl⟩ := hlisted
    have hn := hm.plain_parameters p hp hincluded
      (binding_isSome_of_listing (Option.isSome_of_mem hlisting))
    exact isPayload_producedParameter hz (mem_declaredTypes_of_parameter hp) hn hs _ _

/-! ## Request bodies -/

theorem isPayload_bodyContent? {p : ParameterDescriptor} {types : List TypeRef}
    (ht : p.type ∈ types) (hn : p.type.nested? = none) {content : Schema × String}
    (hc : bodyContent? scope p = some content) : content.1.IsPayload scope types := by
  rw [bodyContent?] at hc
  split at hc
  · obtain rfl := Option.some.inj hc
    exact .file rfl
  · split at hc
    · obtain rfl := Option.some.inj hc
      exact .files p.boundName rfl
    · obtain ⟨s, hs, rfl⟩ := Option.map_eq_some_iff.1 hc
      exact .typed ht hn hs rfl

theorem isPayload_requestBody (hz : hooks.interceptorCount = 0) {m : MethodDescriptor}
    {route : Route} (hm : IsSoundMethod hooks m route) {b : RequestBody}
    (hb : ((bodyPlace? hooks m).bind fun i => m.parameters[i]?).bind
      (requestBody? scope hooks m route) = some b) :
    b.schema.IsPayload scope m.declaredTypes := by
  obtain ⟨p, hposition, hb⟩ := Option.bind_eq_some_iff.1 hb
  obtain ⟨i, hplace, hget⟩ := Option.bind_eq_some_iff.1 hposition
  obtain ⟨q, hq, hcase⟩ := of_bodyPlace? hplace
  obtain rfl : q = p := Option.some.inj (hq.symm.trans hget)
  have hmem : q ∈ m.parameters := List.mem_of_getElem? hq
  have hn : q.type.nested? = none := by
    rcases hcase with ⟨hbound, hincluded⟩ | hfile
    · exact hm.plain_parameters q hmem hincluded (binding_isSome_of_isBodyBound hbound)
    · exact nested?_of_isFileLike hfile
  obtain ⟨⟨content, contentType⟩, hcontent, rfl⟩ := Option.map_eq_some_iff.1 hb
  have hpayload := isPayload_bodyContent? (mem_declaredTypes_of_parameter hmem) hn hcontent
  simp only [Hooks.interceptRequestBody_eq hz]
  exact hpayload.congr (Schema.contents_applyTo q.directives content)

/-! ## Responses -/

/-- The schemas of a response, from the types of its content and its headers. -/
theorem isPayload_response {types : List TypeRef} (hn : ∀ t ∈ types, t.nested? = none)
    {contentType description : String} (body : Option TypeRef) (headers : Assoc String HeaderDecl)
    (hbody : ∀ t ∈ body, t ∈ types) (hheaders : ∀ h ∈ headers.values, h.type ∈ types) {s : Schema}
    (hs : s ∈ Operation.responseSchemas (responseWith contentType description
      (body.bind (schema? scope .direct)) (headerValues scope headers))) :
    s.IsPayload scope types := by
  rcases List.mem_append.1 hs with hs | hs
  · obtain ⟨t, ht, hs⟩ := Option.bind_eq_some_iff.1 (Option.mem_toList.1 hs)
    exact .typed (hbody t ht) (hn t (hbody t ht)) hs rfl
  · obtain ⟨header, hheader, rfl⟩ := List.mem_map.1 hs
    simp only [responseWith, headerValues, Assoc.values_mapValues] at hheader
    obtain ⟨h, hh, rfl⟩ := List.mem_map.1 hheader
    have ht := hheaders h hh
    cases hs : schema? scope .direct h.type with
    | none => exact .text rfl
    | some s => exact .typed ht (hn _ ht) hs rfl

theorem isPayload_responseValues {m : MethodDescriptor} {route : Route}
    (hm : IsSoundMethod hooks m route) {s : Schema}
    (hs : s ∈ (responseValues scope m route).values.flatMap Operation.responseSchemas) :
    s.IsPayload scope m.declaredTypes := by
  have hle : m.responseTypes ++ m.headerTypes ⊆ m.declaredTypes := by
    rw [MethodDescriptor.declaredTypes, List.append_assoc]
    exact List.subset_append_right _ _
  refine Schema.IsPayload.mono ?_ hle
  have hn := hm.plain_responses
  obtain ⟨r, hr, hs⟩ := List.mem_flatMap.1 hs
  rw [responseValues] at hr
  cases hd : m.directives.responses? with
  | none =>
    rw [hd] at hr
    obtain rfl := List.mem_singleton.1 hr
    refine isPayload_response hn (some m.returns) [] ?_ (by simp) hs
    simp [MethodDescriptor.responseTypes, hd]
  | some declared =>
    rw [hd] at hr
    obtain ⟨code, hr⟩ := Assoc.mem_values_iff.1 hr
    obtain ⟨d, hmem, heq⟩ := List.mem_map.1 hr
    obtain ⟨-, rfl⟩ := Prod.mk.inj heq
    refine isPayload_response hn _ _ (fun t ht => List.mem_append_left _ ?_)
      (fun h hh => List.mem_append_right _ ?_) hs
    · rw [MethodDescriptor.responseTypes, hd]
      exact List.mem_filterMap.2 ⟨d, hmem, ht⟩
    · rw [MethodDescriptor.headerTypes, hd]
      exact List.mem_flatMap.2 ⟨d, hmem, List.mem_map_of_mem hh⟩

/-! ## Operations -/

theorem isPayload_methodTemplate (hz : hooks.interceptorCount = 0) (handler : TypeDescriptor)
    {m : MethodDescriptor} {route : Route} (hm : IsSoundMethod hooks m route) {s : Schema}
    (hs : s ∈ (methodTemplate scope hooks handler m route).schemas) :
    s.IsPayload scope m.declaredTypes := by
  rw [Operation.schemas, List.mem_append, List.mem_append] at hs
  rcases hs with (hs | hs) | hs
  · obtain ⟨q, hq, rfl⟩ := List.mem_map.1 hs
    exact isPayload_listedParameters hz hm _ hq
  · obtain ⟨b, hb, rfl⟩ := Option.map_eq_some_iff.1 (Option.mem_toList.1 hs)
    exact isPayload_requestBody hz hm hb
  · exact isPayload_responseValues hm hs

/-- The schemas of an operation of a document are made from what its method declares. -/
theorem isPayload_operation (hz : hooks.interceptorCount = 0)
    {handlers : NamespaceMatcher} {d : Document}
    (hd : (generateIn config hooks graph scope handlers).result = .ok d) {o : Operation}
    (ho : o ∈ d.operations) :
    ∃ handler ∈ graph.types, ∃ m ∈ handler.methods, ∀ s ∈ o.schemas,
      s.IsPayload scope m.declaredTypes := by
  obtain ⟨handler, hhandler, m, hm, route, hmethod, path, verb, id, rfl⟩ :=
    exists_methodTemplate_of_operation hz hd ho
  exact ⟨handler, hhandler, m, hm, fun s hs => isPayload_methodTemplate hz handler hmethod hs⟩

end ApiContract
