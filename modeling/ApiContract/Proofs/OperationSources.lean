import ApiContract.Endpoint.Operations
import ApiContract.Generator
import ApiContract.Proofs.Interception
import ApiContract.Proofs.Table
import ApiContract.Proofs.ValueSchema
/-!
# Where the schemas of operations come from

Every schema of an operation is that of a type which its method declares: a parameter's type for a
parameter or the request body, the return type or the declared body of a response for its content,
the declared type for a header. So what an operation refers to is determined by these types.

* `typeReferences` : what the schema of a value type refers to.
* `Operation.IsRenderedFrom` : each schema of an operation refers to what the schema of a declared
  type refers to.
* `allOperations_meets` : all operations are rendered from their methods, and the faults are those
  of `Fault.IsOfOperation`.
-/

namespace ApiContract

/-- What the schema of a value type refers to, when bases are referred to as components. -/
def typeReferences (scope : Scope) (t : TypeRef) : List String :=
  ((schema? scope .direct t).map (·.references)).getD []

namespace MethodDescriptor

/-- The types of the parameters. -/
def parameterTypes (m : MethodDescriptor) : List TypeRef := m.parameters.map (·.type)

/-- The types of the contents of the responses. -/
def responseTypes (m : MethodDescriptor) : List TypeRef :=
  match m.directives.responses? with
  | some declared => declared.filterMap (·.body)
  | none => [m.returns]

/-- The types of the headers of the responses. -/
def headerTypes (m : MethodDescriptor) : List TypeRef :=
  match m.directives.responses? with
  | some declared => declared.flatMap fun d => d.headers.values.map (·.type)
  | none => []

end MethodDescriptor

/-- A schema refers to what the schema of one of some types refers to. -/
def Schema.IsRenderedFrom (scope : Scope) (types : List TypeRef) (s : Schema) : Prop :=
  ∃ t ∈ types, s.references = typeReferences scope t

/-- The content and the headers of a response are rendered from some types. -/
structure Response.IsRenderedFrom (scope : Scope) (contents headers : List TypeRef)
    (r : Response) : Prop where
  content : ∀ s, r.schema = some s → s.IsRenderedFrom scope contents
  headers : ∀ h ∈ r.headers.values, h.schema.IsRenderedFrom scope headers

/-- The schemas of an operation are rendered from the types that a method declares. -/
structure Operation.IsRenderedFrom (scope : Scope) (m : MethodDescriptor) (o : Operation) :
    Prop where
  parameters : ∀ p ∈ o.parameters, p.schema.IsRenderedFrom scope m.parameterTypes
  requestBody : ∀ b, o.requestBody = some b → b.schema.IsRenderedFrom scope m.parameterTypes
  responses : ∀ r ∈ o.responses.values, r.IsRenderedFrom scope m.responseTypes m.headerTypes

/-- The faults of operations: malformed declarations, and types or parameters without a schema. -/
def Fault.IsOfOperation (fault : Fault) : Prop :=
  fault.IsOtherConfiguration ∨ ∃ problem, fault = .unsupportedShape problem

variable {scope : Scope} {hooks : Hooks}

theorem isOfOperation_locate {place : ShapeProblem → ShapeProblem} {fault : Fault}
    (h : fault.IsOfOperation) : (fault.locate place).IsOfOperation := by
  rcases h with ⟨problem, rfl, hp⟩ | ⟨problem, rfl⟩
  · exact Or.inl ⟨problem, rfl, hp⟩
  · exact Or.inr ⟨place problem, rfl⟩

theorem Schema.IsRenderedFrom.mono {types types' : List TypeRef} {s : Schema}
    (h : s.IsRenderedFrom scope types) (hle : ∀ t ∈ types, t ∈ types') :
    s.IsRenderedFrom scope types' := by
  obtain ⟨t, ht, hs⟩ := h
  exact ⟨t, hle t ht, hs⟩

theorem schemaOf_meets (style : ReferenceStyle) (t : TypeRef) :
    (schemaOf scope style t).Meets (fun r => r = schema? scope style t) Fault.IsOfOperation := by
  refine Traced.Meets.intro (fun r hr => (result_schemaOf_eq_ok.1 hr).2) fun fault hf => ?_
  obtain ⟨u, -, rfl⟩ := result_schemaOf_eq_error.1 hf
  exact Or.inr ⟨_, rfl⟩

theorem typeReferences_of_schema? {t : TypeRef} {s : Schema} (h : schema? scope .direct t = some s) :
    s.references = typeReferences scope t := by
  rw [typeReferences, h]
  rfl

/-! ## Parameters -/

theorem includesParameter_meets (m : MethodDescriptor) (p : ParameterDescriptor) :
    (includesParameter hooks m p).Meets (fun _ => True) Fault.IsOfOperation := by
  rw [includesParameter]
  split
  · exact Traced.Meets.report_bind _ (Traced.Meets.pure trivial)
  · exact Traced.Meets.pure trivial

theorem bodyBound_meets (m : MethodDescriptor) (places : List (ParameterDescriptor × Nat)) :
    (bodyBound hooks m places).Meets (fun _ => True) Fault.IsOfOperation := by
  induction places with
  | nil => exact Traced.Meets.pure trivial
  | cons place rest ih =>
    obtain ⟨p, i⟩ := place
    rw [bodyBound]
    split
    · exact (includesParameter_meets m p).bind fun _ _ =>
        ih.bind fun _ _ => Traced.Meets.pure trivial
    · exact ih

theorem firstFile_meets (m : MethodDescriptor) (places : List (ParameterDescriptor × Nat)) :
    (firstFile hooks m places).Meets (fun _ => True) Fault.IsOfOperation := by
  induction places with
  | nil => exact Traced.Meets.pure trivial
  | cons place rest ih =>
    obtain ⟨p, i⟩ := place
    rw [firstFile]
    split
    · refine (includesParameter_meets m p).bind fun included _ => ?_
      cases included with
      | true => exact Traced.Meets.pure trivial
      | false => exact ih
    · exact ih

theorem bodyPosition_meets (m : MethodDescriptor) :
    (bodyPosition hooks m).Meets (fun _ => True) Fault.IsOfOperation := by
  rw [bodyPosition]
  refine (bodyBound_meets m _).bind fun places _ => ?_
  match places with
  | [] => exact firstFile_meets m _
  | [i] => exact Traced.Meets.pure trivial
  | i :: j :: rest => exact Traced.Meets.fail (Or.inr ⟨_, rfl⟩)

theorem boundParameter_meets (hz : hooks.interceptorCount = 0) (m : MethodDescriptor)
    (p : ParameterDescriptor) (binding : Binding) (location : ParameterLocation) :
    (boundParameter scope hooks m p binding location).Meets
      (fun r => ∀ q, r = some q → q.schema.references = typeReferences scope p.type)
      Fault.IsOfOperation := by
  rw [boundParameter]
  refine ((schemaOf_meets .direct p.type).mapFault fun _ => isOfOperation_locate).bind
    fun r hr => ?_
  cases r with
  | none =>
    refine Traced.Meets.report_bind _ (Traced.Meets.pure ?_)
    rintro q ⟨⟩
  | some s =>
    refine Traced.Meets.pure ?_
    rintro q ⟨⟩
    rw [Hooks.interceptParameter_eq hz, ← typeReferences_of_schema? hr.symm,
      ← Schema.references_applyTo p.directives s]
    exact Schema.references_of_shape rfl

theorem parameterOf_meets (hz : hooks.interceptorCount = 0) (m : MethodDescriptor)
    (p : ParameterDescriptor) :
    (parameterOf scope hooks m p).Meets
      (fun r => ∀ q, r = some q → q.schema.references = typeReferences scope p.type)
      Fault.IsOfOperation := by
  rw [parameterOf]
  split
  · exact Traced.Meets.pure nofun
  · split
    · exact Traced.Meets.pure nofun
    · refine (includesParameter_meets m p).bind fun included _ => ?_
      cases included with
      | true => exact boundParameter_meets hz m p _ _
      | false => exact Traced.Meets.pure nofun

theorem parametersFrom_meets (hz : hooks.interceptorCount = 0) (m : MethodDescriptor)
    (body : Option Nat) (places : List (ParameterDescriptor × Nat)) :
    (parametersFrom scope hooks m body places).Meets
      (fun qs => ∀ q ∈ qs, q.schema.IsRenderedFrom scope (places.map fun place => place.1.type))
      Fault.IsOfOperation := by
  induction places with
  | nil => exact Traced.Meets.pure (by simp)
  | cons place rest ih =>
    obtain ⟨p, i⟩ := place
    have hrest := ih.mono fun qs hqs q hq =>
      Schema.IsRenderedFrom.mono (hqs q hq) fun t ht => List.mem_cons_of_mem p.type ht
    rw [parametersFrom]
    split
    · exact hrest
    · refine (parameterOf_meets hz m p).bind fun produced hp => hrest.bind fun others ho => ?_
      refine Traced.Meets.pure fun q hq => ?_
      rcases List.mem_append.1 hq with hq | hq
      · exact ⟨p.type, List.mem_cons_self .., hp q (Option.mem_toList.1 hq)⟩
      · exact ho q hq

theorem parametersOf_meets (hz : hooks.interceptorCount = 0) (m : MethodDescriptor)
    (body : Option Nat) :
    (parametersOf scope hooks m body).Meets
      (fun qs => ∀ q ∈ qs, q.schema.IsRenderedFrom scope m.parameterTypes)
      Fault.IsOfOperation := by
  refine (parametersFrom_meets hz m body m.parameters.zipIdx).mono fun qs hqs q hq =>
    (hqs q hq).mono fun t ht => ?_
  obtain ⟨⟨p, i⟩, hp, rfl⟩ := List.mem_map.1 ht
  exact List.mem_map.2 ⟨p, (List.mem_zipIdx' hp).2 ▸ List.getElem_mem _, rfl⟩

/-! ## Request bodies -/

theorem isFileLike_iff {t : TypeRef} :
    t.isFileLike = true ↔ t = .file ∨ t = .list .file ∨ t = .array .file := by
  rw [TypeRef.isFileLike, Bool.or_eq_true, beq_iff_eq, beq_iff_eq]
  cases t with
  | list element | array element => simp [TypeRef.element?]
  | _ => simp [TypeRef.element?]

theorem leaf_of_isFileLike {t : TypeRef} (h : t.isFileLike = true) : t.leaf = .file := by
  rcases isFileLike_iff.1 h with rfl | rfl | rfl
  · rfl
  · rfl
  · rfl

theorem typeReferences_of_isFileLike {t : TypeRef} (h : t.isFileLike = true) :
    typeReferences scope t = [] := by
  rw [typeReferences, schema?, leaf_of_isFileLike h]
  simp only [leafNode?, Option.map_some, Option.getD_some, TypeRef.references_wrap]
  rfl

theorem bodyContent_meets (m : MethodDescriptor) (p : ParameterDescriptor) :
    (bodyContent scope m p).Meets
      (fun r => ∀ c, r = some c → c.1.references = typeReferences scope p.type)
      Fault.IsOfOperation := by
  rw [bodyContent]
  split
  · next hfile =>
    refine Traced.Meets.pure ?_
    rintro c ⟨⟩
    rw [typeReferences_of_isFileLike (by rw [hfile]; rfl)]
    rfl
  · split
    · next hfiles =>
      refine Traced.Meets.pure ?_
      rintro c ⟨⟩
      rw [typeReferences_of_isFileLike hfiles]
      rfl
    · refine ((schemaOf_meets .direct p.type).mapFault fun _ => isOfOperation_locate).bind
        fun r hr => ?_
      cases r with
      | none => exact Traced.Meets.report_bind _ (Traced.Meets.pure nofun)
      | some s =>
        refine Traced.Meets.pure ?_
        rintro c ⟨⟩
        exact typeReferences_of_schema? hr.symm

theorem requestBodyOf_meets (hz : hooks.interceptorCount = 0) (m : MethodDescriptor)
    (route : Route) (p : ParameterDescriptor) :
    (requestBodyOf scope hooks m route p).Meets
      (fun r => ∀ b, r = some b → b.schema.references = typeReferences scope p.type)
      Fault.IsOfOperation := by
  rw [requestBodyOf]
  refine (bodyContent_meets m p).bind fun r hr => ?_
  cases r with
  | none => exact Traced.Meets.pure nofun
  | some c =>
    refine Traced.Meets.pure ?_
    rintro b ⟨⟩
    rw [Hooks.interceptRequestBody_eq hz, ← hr c rfl, ← Schema.references_applyTo p.directives c.1]
    exact Schema.references_of_shape rfl

/-! ## Responses -/

theorem headersOf_meets (headers : Assoc String HeaderDecl) :
    (headersOf scope headers).Meets
      (fun hs => ∀ h ∈ hs.values, h.schema.IsRenderedFrom scope (headers.values.map (·.type)))
      Fault.IsOfOperation := by
  induction headers with
  | nil => exact Traced.Meets.pure (by simp)
  | cons header rest ih =>
    obtain ⟨name, h⟩ := header
    rw [headersOf]
    refine (schemaOf_meets .direct h.type).bind fun r hr => ih.bind fun others ho => ?_
    refine Traced.Meets.pure fun h' hmem => ?_
    rw [Assoc.values_cons, List.map_cons]
    rcases List.mem_cons.1 hmem with rfl | hmem
    · refine ⟨h.type, List.mem_cons_self .., ?_⟩
      rw [typeReferences, ← hr]
      cases r with
      | none => rfl
      | some s => rfl
    · exact (ho h' hmem).mono fun t ht => List.mem_cons_of_mem _ ht

theorem declaredResponse_meets (contentType : String) (d : ResponseDecl) :
    (declaredResponse scope contentType d).Meets
      (fun r => r.IsRenderedFrom scope d.body.toList (d.headers.values.map (·.type)))
      Fault.IsOfOperation := by
  rw [declaredResponse]
  -- the headers are the same whatever the content is
  have hheaders : ∀ content : Option Schema,
      (∀ s, content = some s → s.IsRenderedFrom scope d.body.toList) →
      Traced.Meets (do
          let headers ← headersOf scope d.headers
          pure (responseWith contentType (d.description.getD (reasonPhrase d.code)) content headers))
        (fun r => r.IsRenderedFrom scope d.body.toList (d.headers.values.map (·.type)))
        Fault.IsOfOperation :=
    fun content hc => (headersOf_meets d.headers).bind fun hs hh => Traced.Meets.pure ⟨hc, hh⟩
  cases hb : d.body with
  | none =>
    rw [hb] at hheaders
    exact hheaders none nofun
  | some body =>
    rw [hb] at hheaders
    refine (schemaOf_meets .direct body).bind fun content hc => hheaders content fun s hs => ?_
    exact ⟨body, List.mem_singleton.2 rfl, typeReferences_of_schema? (hc.symm.trans hs)⟩

theorem addResponses_meets (method contentType : String) {responses : Assoc UInt16 Response}
    {contents headers : List TypeRef} (declared : List ResponseDecl)
    (hdone : ∀ r ∈ responses.values, r.IsRenderedFrom scope contents headers)
    (hcontents : ∀ d ∈ declared, ∀ t ∈ d.body.toList, t ∈ contents)
    (hheaders : ∀ d ∈ declared, ∀ t ∈ d.headers.values.map (·.type), t ∈ headers) :
    (addResponses scope method contentType responses declared).Meets
      (fun rs => ∀ r ∈ rs.values, r.IsRenderedFrom scope contents headers)
      Fault.IsOfOperation := by
  induction declared generalizing responses with
  | nil => exact Traced.Meets.pure hdone
  | cons d rest ih =>
    rw [addResponses]
    refine (declaredResponse_meets contentType d).bind fun r hr => ?_
    split
    · exact Traced.Meets.fail (Or.inl ⟨_, rfl, nofun⟩)
    · refine ih (fun r' hr' => ?_) (fun e he => hcontents e (List.mem_cons_of_mem _ he))
        fun e he => hheaders e (List.mem_cons_of_mem _ he)
      obtain ⟨code, hcode⟩ := Assoc.mem_values_iff.1 hr'
      rcases Assoc.mem_of_mem_insert hcode with heq | hold
      · obtain ⟨-, rfl⟩ := Prod.mk.inj heq
        exact ⟨fun s hs => (hr.content s hs).mono (hcontents d (List.mem_cons_self ..)),
          fun h hh => (hr.headers h hh).mono (hheaders d (List.mem_cons_self ..))⟩
      · exact hdone r' (Assoc.mem_values_iff.2 ⟨code, hold⟩)

theorem responsesOf_meets (m : MethodDescriptor) (route : Route) :
    (responsesOf scope m route).Meets
      (fun rs => ∀ r ∈ rs.values, r.IsRenderedFrom scope m.responseTypes m.headerTypes)
      Fault.IsOfOperation := by
  rw [responsesOf]
  cases hd : m.directives.responses? with
  | some declared =>
    refine addResponses_meets m.name _ declared (by simp) (fun d hmem t ht => ?_)
      fun d hmem t ht => ?_
    · rw [MethodDescriptor.responseTypes, hd]
      exact List.mem_filterMap.2 ⟨d, hmem, Option.mem_toList.1 ht⟩
    · rw [MethodDescriptor.headerTypes, hd]
      exact List.mem_flatMap.2 ⟨d, hmem, ht⟩
  | none =>
    refine (schemaOf_meets .direct m.returns).bind fun r hr => Traced.Meets.pure fun r' hr' => ?_
    obtain rfl := List.mem_singleton.1 hr'
    refine ⟨fun s hs => ⟨m.returns, ?_, typeReferences_of_schema? (hr.symm.trans hs)⟩, by
      simp [responseWith]⟩
    rw [MethodDescriptor.responseTypes, hd]
    exact List.mem_singleton.2 rfl

/-! ## Operations -/

theorem reportUnbound_meets (handler : TypeDescriptor) (m : MethodDescriptor) (path : String)
    (parameters : List Parameter) (names : List String) :
    (reportUnbound handler m path parameters names).Meets (fun _ => True)
      Fault.IsOfOperation := by
  induction names with
  | nil => exact Traced.Meets.pure trivial
  | cons v rest ih =>
    rw [reportUnbound]
    split
    · exact Traced.Meets.report_bind _ ih
    · exact ih

theorem operationsOnPath_meets (hz : hooks.interceptorCount = 0) (handler : TypeDescriptor)
    (m : MethodDescriptor) (route : Route) {template : Operation}
    (ht : template.IsRenderedFrom scope m) (verbs : List Verb) :
    (operationsOnPath hooks handler m route template verbs).Meets
      (fun os => ∀ o ∈ os, o.IsRenderedFrom scope m) Fault.IsOfOperation := by
  induction verbs with
  | nil => exact Traced.Meets.pure (by simp)
  | cons verb rest ih =>
    rw [operationsOnPath]
    refine Traced.Meets.report_bind _ (ih.bind fun others ho => Traced.Meets.pure fun o hmem => ?_)
    rcases List.mem_cons.1 hmem with rfl | hmem
    · rw [Hooks.interceptOperation_eq hz]
      exact ⟨ht.parameters, ht.requestBody, ht.responses⟩
    · exact ho o hmem

theorem operationsOnPaths_meets (hz : hooks.interceptorCount = 0) (handler : TypeDescriptor)
    (m : MethodDescriptor) (route : Route) (base : String) {template : Operation}
    (ht : template.IsRenderedFrom scope m) (paths : List String) :
    (operationsOnPaths hooks handler m route base template paths).Meets
      (fun os => ∀ o ∈ os, o.IsRenderedFrom scope m) Fault.IsOfOperation := by
  induction paths with
  | nil => exact Traced.Meets.pure (by simp)
  | cons path rest ih =>
    rw [operationsOnPaths]
    refine (reportUnbound_meets handler m _ _ _).bind fun _ _ => ?_
    have hpath : Operation.IsRenderedFrom scope m
        { template with path := preparePath [base, path] } :=
      ⟨ht.parameters, ht.requestBody, ht.responses⟩
    refine (operationsOnPath_meets hz handler m route hpath route.verbs).bind fun here hh => ?_
    refine ih.bind fun others ho => Traced.Meets.pure fun o hmem => ?_
    rcases List.mem_append.1 hmem with hmem | hmem
    · exact hh o hmem
    · exact ho o hmem

theorem operationsOfMethod_meets (hz : hooks.interceptorCount = 0) (handler : TypeDescriptor)
    (base tag : String) (m : MethodDescriptor) (route : Route) :
    (operationsOfMethod scope hooks handler base tag m route).Meets
      (fun os => ∀ o ∈ os, o.IsRenderedFrom scope m) Fault.IsOfOperation := by
  rw [operationsOfMethod]
  split
  · exact Traced.Meets.fail (Or.inl ⟨_, rfl, nofun⟩)
  · refine (bodyPosition_meets m).bind fun body _ => ?_
    refine (parametersOf_meets hz m body).bind fun parameters hp => ?_
    cases hposition : body.bind fun i => m.parameters[i]? with
    | none =>
      refine (responsesOf_meets m route).bind fun responses hr => ?_
      exact operationsOnPaths_meets hz handler m route base ⟨hp, by rintro b ⟨⟩, hr⟩ _
    | some p =>
      obtain ⟨i, -, hi⟩ := Option.bind_eq_some_iff.1 hposition
      have hmem : p.type ∈ m.parameterTypes := List.mem_map.2 ⟨p, List.mem_of_getElem? hi, rfl⟩
      refine (requestBodyOf_meets hz m route p).bind fun requestBody hb => ?_
      refine (responsesOf_meets m route).bind fun responses hr => ?_
      exact operationsOnPaths_meets hz handler m route base
        ⟨hp, fun b hrb => ⟨p.type, hmem, hb b hrb⟩, hr⟩ _

theorem operationsOfMethods_meets (hz : hooks.interceptorCount = 0) (handler : TypeDescriptor)
    (base tag : String) (methods : List MethodDescriptor) :
    (operationsOfMethods scope hooks handler base tag methods).Meets
      (fun os => ∀ o ∈ os, ∃ m ∈ methods, o.IsRenderedFrom scope m) Fault.IsOfOperation := by
  induction methods with
  | nil => exact Traced.Meets.pure (by simp)
  | cons m rest ih =>
    have hrest : (operationsOfMethods scope hooks handler base tag rest).Meets
        (fun os => ∀ o ∈ os, ∃ m' ∈ m :: rest, o.IsRenderedFrom scope m')
        Fault.IsOfOperation := by
      refine ih.mono fun os hos o hmem => ?_
      obtain ⟨m', hm', ho⟩ := hos o hmem
      exact ⟨m', List.mem_cons_of_mem _ hm', ho⟩
    rw [operationsOfMethods]
    split
    · exact hrest
    · split
      · exact Traced.Meets.report_bind _ hrest
      · refine (operationsOfMethod_meets hz handler base tag m _).bind fun here hh => ?_
        refine hrest.bind fun others ho => Traced.Meets.pure fun o hmem => ?_
        rcases List.mem_append.1 hmem with hmem | hmem
        · exact ⟨m, List.mem_cons_self .., hh o hmem⟩
        · exact ho o hmem

theorem basePath_error {handler : TypeDescriptor} {fault : Fault}
    (h : basePath handler = .error fault) : fault.IsOtherConfiguration := by
  rw [basePath] at h
  split at h
  · cases h
  · split at h
    · cases h
    · cases h
    · exact ⟨_, (Except.error.inj h).symm, nofun⟩

theorem operationsOf_meets (hz : hooks.interceptorCount = 0) (handler : TypeDescriptor) :
    (operationsOf scope hooks handler).Meets
      (fun os => ∀ o ∈ os, ∃ m ∈ handler.methods, o.IsRenderedFrom scope m)
      Fault.IsOfOperation := by
  rw [operationsOf]
  split
  · exact Traced.Meets.report_bind _ (Traced.Meets.pure (by simp))
  · have hbase : (Traced.lift (basePath handler)).Meets (fun _ => True) Fault.IsOfOperation :=
      Traced.Meets.intro (fun _ _ => trivial) fun _ hf => Or.inl (basePath_error hf)
    exact hbase.bind fun base _ => operationsOfMethods_meets hz handler base _ handler.methods

/-- Every operation is rendered from a method of one of the handlers. -/
theorem allOperations_meets (hz : hooks.interceptorCount = 0) (handlers : List TypeDescriptor) :
    (allOperations scope hooks handlers).Meets
      (fun os => ∀ o ∈ os, ∃ handler ∈ handlers, ∃ m ∈ handler.methods, o.IsRenderedFrom scope m)
      Fault.IsOfOperation := by
  induction handlers with
  | nil => exact Traced.Meets.pure (by simp)
  | cons handler rest ih =>
    rw [allOperations]
    refine (operationsOf_meets hz handler).bind fun here hh => ih.bind fun others ho => ?_
    refine Traced.Meets.pure fun o hmem => ?_
    rcases List.mem_append.1 hmem with hmem | hmem
    · exact ⟨handler, List.mem_cons_self .., hh o hmem⟩
    · obtain ⟨handler', hmem', hm⟩ := ho o hmem
      exact ⟨handler', List.mem_cons_of_mem _ hmem', hm⟩

end ApiContract
