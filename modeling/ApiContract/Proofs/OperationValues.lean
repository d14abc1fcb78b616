import ApiContract.Proofs.OperationSources
/-!
# Operations as functions of their methods

Which routed methods are accepted, and what their operations are, said without running anything. A
method is accepted if its route names a verb, at most one included parameter is bound to the body,
no status is declared twice, and no list or array stands directly inside another one in a type that
becomes part of the operation.

* `IsSoundMethod`, `IsSoundHandler` : what is accepted.
* `listedParameters`, `requestBody?`, `responseValues` : the parts of an operation.
* `methodOperations`, `handlerOperations` : the operations, one for each path and verb.
* `result_allOperations_eq_ok` : handlers are accepted exactly if they are sound, and these are
  their operations.
-/

namespace ApiContract

/-! ## What is accepted -/

/-- Whether a parameter is part of its operation. -/
def isIncludedParameter (hooks : Hooks) (m : MethodDescriptor) (p : ParameterDescriptor) : Bool :=
  !p.directives.isExcluded && hooks.includesParameter m p

/-- The route of a method that is part of the document. -/
def includedRoute? (hooks : Hooks) (handler : TypeDescriptor) (m : MethodDescriptor) :
    Option Route :=
  if m.directives.isExcluded || !hooks.includesOperation handler m then none
  else m.directives.route?

/-- A routed method has operations. -/
structure IsSoundMethod (hooks : Hooks) (m : MethodDescriptor) (route : Route) : Prop where
  has_verbs : route.verbs ≠ []
  one_body :
    (m.parameters.filter fun p => p.isBodyBound && isIncludedParameter hooks m p).length ≤ 1
  plain_parameters : ∀ p ∈ m.parameters, isIncludedParameter hooks m p = true →
    p.directives.binding?.isSome = true → p.type.nested? = none
  plain_responses : ∀ t ∈ m.responseTypes ++ m.headerTypes, t.nested? = none
  nodup_codes : ∀ declared, m.directives.responses? = some declared →
    (declared.map (·.code)).Nodup

/-- A handler has at most one base path, and its included routed methods have operations. -/
structure IsSoundHandler (hooks : Hooks) (handler : TypeDescriptor) : Prop where
  base : ∀ route, handler.directives.route? = some route → route.paths.length ≤ 1
  methods : ∀ m ∈ handler.methods, ∀ route, includedRoute? hooks handler m = some route →
    IsSoundMethod hooks m route

/-! ## The parts of an operation -/

/-- The places of the included parameters that are bound to the body. -/
def bodyBoundPlaces (hooks : Hooks) (m : MethodDescriptor)
    (places : List (ParameterDescriptor × Nat)) : List Nat :=
  (places.filter fun place => place.1.isBodyBound && isIncludedParameter hooks m place.1).map (·.2)

/-- The place of the first included file or container of files. -/
def firstFilePlace? (hooks : Hooks) (m : MethodDescriptor)
    (places : List (ParameterDescriptor × Nat)) : Option Nat :=
  (places.find? fun place =>
    place.1.type.isFileLike && isIncludedParameter hooks m place.1).map (·.2)

/-- The place of the parameter that becomes the request body. -/
def bodyPlace? (hooks : Hooks) (m : MethodDescriptor) : Option Nat :=
  (bodyBoundPlaces hooks m m.parameters.zipIdx).head?.or
    (firstFilePlace? hooks m m.parameters.zipIdx)

/-- The binding of a parameter and where it puts the parameter, unless that is the body. -/
def ParameterDescriptor.listing? (p : ParameterDescriptor) : Option (Binding × ParameterLocation) :=
  p.directives.binding?.bind fun binding =>
    binding.location.parameterLocation?.map fun location => (binding, location)

/-- The parameter of an operation that a declared parameter becomes, from the schema of its type. -/
def producedParameter (hooks : Hooks) (m : MethodDescriptor) (p : ParameterDescriptor)
    (binding : Binding) (location : ParameterLocation) (schema : Schema) : Parameter :=
  let refined := p.directives.applyTo schema
  hooks.interceptParameter m p {
    name := binding.resolveName p.name
    location
    required := binding.isRequired
    description := refined.description
    deprecated := refined.deprecated
    schema := { refined with description := none, deprecated := false } }

/-- The parameter of an operation that a declared parameter becomes, if it becomes one. -/
def listedParameter? (scope : Scope) (hooks : Hooks) (m : MethodDescriptor)
    (p : ParameterDescriptor) : Option Parameter :=
  p.listing?.bind fun (binding, location) =>
    if isIncludedParameter hooks m p then
      (schema? scope .direct p.type).map (producedParameter hooks m p binding location)
    else none

/-- The parameters of an operation, from those that do not become the body. -/
def listedParameters (scope : Scope) (hooks : Hooks) (m : MethodDescriptor) (body : Option Nat)
    (places : List (ParameterDescriptor × Nat)) : List Parameter :=
  (places.filter fun place => decide (body ≠ some place.2)).filterMap fun place =>
    listedParameter? scope hooks m place.1

/-- The schema and the content type of the body that a parameter becomes. -/
def bodyContent? (scope : Scope) (p : ParameterDescriptor) : Option (Schema × String) :=
  if p.type = .file then some (.binary, fileContent)
  else if p.type.isFileLike then
    some (.object (ObjectShape.insertProperty {} p.boundName (.array .binary) false), filesContent)
  else (schema? scope .direct p.type).map fun schema => (schema, jsonContent)

/-- The request body that a parameter becomes, if it becomes one. -/
def requestBody? (scope : Scope) (hooks : Hooks) (m : MethodDescriptor) (route : Route)
    (p : ParameterDescriptor) : Option RequestBody :=
  (bodyContent? scope p).map fun (schema, contentType) =>
    let refined := p.directives.applyTo schema
    hooks.interceptRequestBody m p {
      contentType := route.consumes.getD contentType
      required := (p.directives.binding?.map (·.isRequired)).getD true
      description := refined.description
      schema := { refined with description := none } }

/-- The headers of a declared response. -/
def headerValues (scope : Scope) (headers : Assoc String HeaderDecl) : Assoc String Header :=
  headers.mapValues fun h => ⟨h.description, (schema? scope .direct h.type).getD .text⟩

/-- A declared response. -/
def responseValue (scope : Scope) (contentType : String) (d : ResponseDecl) : Response :=
  responseWith contentType (d.description.getD (reasonPhrase d.code))
    (d.body.bind (schema? scope .direct)) (headerValues scope d.headers)

/-- The responses of a method. -/
def responseValues (scope : Scope) (m : MethodDescriptor) (route : Route) :
    Assoc UInt16 Response :=
  let contentType := route.produces.getD jsonContent
  match m.directives.responses? with
  | some declared => declared.map fun d => (d.code, responseValue scope contentType d)
  | none =>
    let code := m.directives.responseStatus?.getD defaultStatus
    [(code, responseWith contentType (reasonPhrase code) (schema? scope .direct m.returns) [])]

/-! ## The operations -/

/-- What all operations of a method have in common. -/
def methodTemplate (scope : Scope) (hooks : Hooks) (handler : TypeDescriptor)
    (m : MethodDescriptor) (route : Route) : Operation where
  verb := .get
  path := ""
  id := ""
  tag := handlerTag handler
  description := m.directives.description?.bind (·.description)
  deprecated := m.directives.isDeprecated || handler.directives.isDeprecated
  parameters := listedParameters scope hooks m (bodyPlace? hooks m) m.parameters.zipIdx
  requestBody := ((bodyPlace? hooks m).bind fun i => m.parameters[i]?).bind
    (requestBody? scope hooks m route)
  responses := responseValues scope m route

/-- The operation of a method at a path for a verb. -/
def operationAt (hooks : Hooks) (handler : TypeDescriptor) (m : MethodDescriptor) (route : Route)
    (template : Operation) (path : String) (verb : Verb) : Operation :=
  hooks.interceptOperation handler m { template with path, verb, id := operationId m route verb }

/-- The only base path of a handler, if it has one. -/
def basePathOf (handler : TypeDescriptor) : String :=
  match handler.directives.route?.map (·.paths) with
  | some [path] => path
  | _ => ""

/-- The operations of a routed method. -/
def methodOperations (scope : Scope) (hooks : Hooks) (handler : TypeDescriptor)
    (m : MethodDescriptor) (route : Route) : List Operation :=
  route.methodPaths.flatMap fun path => route.verbs.map fun verb =>
    operationAt hooks handler m route (methodTemplate scope hooks handler m route)
      (preparePath [basePathOf handler, path]) verb

/-- The operations of a handler. -/
def handlerOperations (scope : Scope) (hooks : Hooks) (handler : TypeDescriptor) :
    List Operation :=
  if handler.directives.isExcluded then []
  else handler.methods.flatMap fun m =>
    (includedRoute? hooks handler m).toList.flatMap (methodOperations scope hooks handler m)

variable {scope : Scope} {hooks : Hooks}

/-! ## The parameter that becomes the body -/

theorem result_includesParameter (m : MethodDescriptor) (p : ParameterDescriptor) :
    (includesParameter hooks m p).result = .ok (isIncludedParameter hooks m p) := by
  rw [includesParameter, isIncludedParameter]
  cases hx : p.directives.isExcluded with
  | true => rfl
  | false =>
    cases hf : hooks.includesParameter m p with
    | true => rfl
    | false => rfl

theorem result_bodyBound (m : MethodDescriptor) (places : List (ParameterDescriptor × Nat)) :
    (bodyBound hooks m places).result = .ok (bodyBoundPlaces hooks m places) := by
  induction places with
  | nil => rfl
  | cons place rest ih =>
    obtain ⟨p, i⟩ := place
    rw [bodyBound]
    cases hb : p.isBodyBound with
    | false =>
      simp only [Bool.false_eq_true, if_false]
      rw [ih, bodyBoundPlaces, bodyBoundPlaces, List.filter_cons_of_neg (by simp [hb])]
    | true =>
      rw [if_pos rfl, Traced.result_bind_of_ok (result_includesParameter m p),
        Traced.result_bind_of_ok ih, Traced.result_pure]
      cases hi : isIncludedParameter hooks m p with
      | true => simp [bodyBoundPlaces, hb, hi]
      | false => simp [bodyBoundPlaces, hb, hi]

theorem result_firstFile (m : MethodDescriptor) (places : List (ParameterDescriptor × Nat)) :
    (firstFile hooks m places).result = .ok (firstFilePlace? hooks m places) := by
  induction places with
  | nil => rfl
  | cons place rest ih =>
    obtain ⟨p, i⟩ := place
    rw [firstFile]
    cases hb : p.type.isFileLike with
    | false =>
      simp only [Bool.false_eq_true, if_false]
      rw [ih, firstFilePlace?, firstFilePlace?, List.find?_cons_of_neg (by simp [hb])]
    | true =>
      rw [if_pos rfl, Traced.result_bind_of_ok (result_includesParameter m p)]
      cases hi : isIncludedParameter hooks m p with
      | true => simp [firstFilePlace?, hb, hi]
      | false =>
        simp only [Bool.false_eq_true, if_false]
        rw [ih, firstFilePlace?, firstFilePlace?, List.find?_cons_of_neg (by simp [hi])]

/-- The body is the only included parameter that is bound to it, else the first file. -/
theorem result_bodyPosition_eq_ok {m : MethodDescriptor} {body : Option Nat} :
    (bodyPosition hooks m).result = .ok body ↔
      (bodyBoundPlaces hooks m m.parameters.zipIdx).length ≤ 1 ∧ body = bodyPlace? hooks m := by
  rw [bodyPosition, Traced.result_bind_of_ok (result_bodyBound m _), bodyPlace?]
  rcases bodyBoundPlaces hooks m m.parameters.zipIdx with _ | ⟨i, _ | ⟨j, rest⟩⟩
  · simp [result_firstFile, eq_comm]
  · simp [eq_comm]
  · simp

theorem length_bodyBoundPlaces (m : MethodDescriptor) :
    (bodyBoundPlaces hooks m m.parameters.zipIdx).length =
      (m.parameters.filter fun p => p.isBodyBound && isIncludedParameter hooks m p).length := by
  have hfst : m.parameters = m.parameters.zipIdx.map Prod.fst := (List.zipIdx_map_fst ..).symm
  conv => rhs; rw [hfst, List.filter_map, List.length_map]
  rw [bodyBoundPlaces, List.length_map]
  rfl

/-! ## Parameters -/

theorem result_boundParameter_eq_ok {m : MethodDescriptor} {p : ParameterDescriptor}
    {binding : Binding} {location : ParameterLocation} {r : Option Parameter} :
    (boundParameter scope hooks m p binding location).result = .ok r ↔
      p.type.nested? = none ∧
        r = (schema? scope .direct p.type).map (producedParameter hooks m p binding location) := by
  rw [boundParameter, Traced.result_bind_eq_ok]
  simp only [Traced.result_mapFault_eq_ok, result_schemaOf_eq_ok]
  constructor
  · rintro ⟨s?, ⟨hn, rfl⟩, h⟩
    refine ⟨hn, ?_⟩
    cases hs : schema? scope .direct p.type with
    | none =>
      rw [hs] at h
      exact (Except.ok.inj h).symm
    | some s =>
      rw [hs] at h
      exact (Except.ok.inj h).symm
  · rintro ⟨hn, rfl⟩
    refine ⟨_, ⟨hn, rfl⟩, ?_⟩
    cases schema? scope .direct p.type with
    | none => rfl
    | some s => rfl

/-- A listed parameter that is included needs a plain type. -/
theorem result_parameterOf_eq_ok {m : MethodDescriptor} {p : ParameterDescriptor}
    {r : Option Parameter} :
    (parameterOf scope hooks m p).result = .ok r ↔
      (p.listing?.isSome = true → isIncludedParameter hooks m p = true → p.type.nested? = none) ∧
        r = listedParameter? scope hooks m p := by
  rw [parameterOf, listedParameter?, ParameterDescriptor.listing?]
  cases p.directives.binding? with
  | none =>
    rw [Traced.result_pure_eq_ok]
    simp
  | some binding =>
    simp only [Option.bind_some]
    cases hl : binding.location.parameterLocation? with
    | none =>
      rw [Traced.result_pure_eq_ok]
      simp
    | some location =>
      simp only [Option.map_some, Option.bind_some]
      rw [Traced.result_bind_of_ok (result_includesParameter m p)]
      cases isIncludedParameter hooks m p with
      | true => simp [result_boundParameter_eq_ok]
      | false =>
        simp only [Bool.false_eq_true, if_false]
        rw [Traced.result_pure_eq_ok]
        simp

theorem listedParameters_cons {m : MethodDescriptor} {body : Option Nat} {p : ParameterDescriptor}
    {i : Nat} (rest : List (ParameterDescriptor × Nat)) :
    listedParameters scope hooks m body ((p, i) :: rest) =
      if body = some i then listedParameters scope hooks m body rest
      else (listedParameter? scope hooks m p).toList ++
        listedParameters scope hooks m body rest := by
  by_cases h : body = some i
  · simp [listedParameters, h]
  · rw [listedParameters, List.filter_cons_of_pos (by simpa using h), if_neg h,
      List.filterMap_cons]
    cases listedParameter? scope hooks m p with
    | none => rfl
    | some q => rfl

theorem result_parametersFrom_eq_ok {m : MethodDescriptor} {body : Option Nat}
    {out : List Parameter} (places : List (ParameterDescriptor × Nat)) :
    (parametersFrom scope hooks m body places).result = .ok out ↔
      (∀ place ∈ places, body ≠ some place.2 → place.1.listing?.isSome = true →
        isIncludedParameter hooks m place.1 = true → place.1.type.nested? = none) ∧
      out = listedParameters scope hooks m body places := by
  induction places generalizing out with
  | nil =>
    rw [parametersFrom, Traced.result_pure_eq_ok]
    simp [listedParameters]
  | cons place rest ih =>
    obtain ⟨p, i⟩ := place
    rw [parametersFrom, listedParameters_cons, List.forall_mem_cons]
    by_cases h : body = some i
    · simp only [h, if_true, ne_eq, not_true, false_implies, true_and]
      rw [← h]
      exact ih
    · rw [if_neg h, if_neg h, Traced.result_bind_eq_ok]
      simp only [Traced.result_bind_eq_ok, result_parameterOf_eq_ok, ih]
      constructor
      · rintro ⟨produced, ⟨hp, rfl⟩, others, ⟨hrest, rfl⟩, hout⟩
        exact ⟨⟨fun _ => hp, hrest⟩, (Except.ok.inj hout).symm⟩
      · rintro ⟨⟨hp, hrest⟩, rfl⟩
        exact ⟨_, ⟨hp h, rfl⟩, _, ⟨hrest, rfl⟩, rfl⟩

/-! ## Request bodies -/

theorem nested?_of_isFileLike {t : TypeRef} (h : t.isFileLike = true) : t.nested? = none := by
  rcases isFileLike_iff.1 h with rfl | rfl | rfl
  · rfl
  · rfl
  · rfl

theorem result_bodyContent_eq_ok {m : MethodDescriptor} {p : ParameterDescriptor}
    {r : Option (Schema × String)} :
    (bodyContent scope m p).result = .ok r ↔
      p.type.nested? = none ∧ r = bodyContent? scope p := by
  rw [bodyContent, bodyContent?]
  by_cases hfile : p.type = .file
  · simp [hfile, TypeRef.nested?, eq_comm]
  · rw [if_neg hfile, if_neg hfile]
    cases hfiles : p.type.isFileLike with
    | true => simp [nested?_of_isFileLike hfiles, eq_comm]
    | false =>
      simp only [Bool.false_eq_true, if_false]
      rw [Traced.result_bind_eq_ok]
      simp only [Traced.result_mapFault_eq_ok, result_schemaOf_eq_ok]
      constructor
      · rintro ⟨s?, ⟨hn, rfl⟩, h⟩
        refine ⟨hn, ?_⟩
        cases hs : schema? scope .direct p.type with
        | none =>
          rw [hs] at h
          exact (Except.ok.inj h).symm
        | some s =>
          rw [hs] at h
          exact (Except.ok.inj h).symm
      · rintro ⟨hn, rfl⟩
        refine ⟨_, ⟨hn, rfl⟩, ?_⟩
        cases schema? scope .direct p.type with
        | none => rfl
        | some s => rfl

theorem result_requestBodyOf_eq_ok {m : MethodDescriptor} {route : Route}
    {p : ParameterDescriptor} {r : Option RequestBody} :
    (requestBodyOf scope hooks m route p).result = .ok r ↔
      p.type.nested? = none ∧ r = requestBody? scope hooks m route p := by
  rw [requestBodyOf, requestBody?, Traced.result_bind_eq_ok]
  simp only [result_bodyContent_eq_ok]
  constructor
  · rintro ⟨content, ⟨hn, rfl⟩, h⟩
    refine ⟨hn, ?_⟩
    cases hc : bodyContent? scope p with
    | none =>
      rw [hc] at h
      exact (Except.ok.inj h).symm
    | some content =>
      rw [hc] at h
      exact (Except.ok.inj h).symm
  · rintro ⟨hn, rfl⟩
    refine ⟨_, ⟨hn, rfl⟩, ?_⟩
    cases bodyContent? scope p with
    | none => rfl
    | some content => rfl

/-- What comes after the request body goes on with that of the parameter that becomes the body, if
there is one. -/
theorem result_bind_requestBody_eq_ok {α : Type} {m : MethodDescriptor} {route : Route}
    {body : Option ParameterDescriptor} {next : Option RequestBody → Traced α} {out : α} :
    (match body with
      | none => do
        let r ← pure none
        next r
      | some p => do
        let r ← requestBodyOf scope hooks m route p
        next r).result = .ok out ↔
      (∀ p, body = some p → p.type.nested? = none) ∧
        (next (body.bind (requestBody? scope hooks m route))).result = .ok out := by
  cases body with
  | none =>
    simp only [Traced.result_bind_eq_ok, Traced.result_pure_eq_ok, exists_eq_left]
    exact ⟨fun h => ⟨nofun, h⟩, And.right⟩
  | some p =>
    simp only [Traced.result_bind_eq_ok, result_requestBodyOf_eq_ok, Option.some.injEq,
      forall_eq', Option.bind_some, and_assoc, exists_and_left, exists_eq_left]

/-! ## Responses -/

theorem result_headersOf_eq_ok {out : Assoc String Header} (headers : Assoc String HeaderDecl) :
    (headersOf scope headers).result = .ok out ↔
      (∀ h ∈ headers.values, h.type.nested? = none) ∧ out = headerValues scope headers := by
  induction headers generalizing out with
  | nil =>
    rw [headersOf, Traced.result_pure_eq_ok]
    simp [headerValues, Assoc.mapValues]
  | cons header rest ih =>
    obtain ⟨name, h⟩ := header
    rw [headersOf, Traced.result_bind_eq_ok, Assoc.values_cons, List.forall_mem_cons]
    simp only [Traced.result_bind_eq_ok, result_schemaOf_eq_ok, ih]
    constructor
    · rintro ⟨s?, ⟨hn, rfl⟩, others, ⟨hrest, rfl⟩, hout⟩
      exact ⟨⟨hn, hrest⟩, (Except.ok.inj hout).symm⟩
    · rintro ⟨⟨hn, hrest⟩, rfl⟩
      exact ⟨_, ⟨hn, rfl⟩, _, ⟨hrest, rfl⟩, rfl⟩

/-- A declared response needs plain types for its content and its headers. -/
theorem result_declaredResponse_eq_ok {contentType : String} {d : ResponseDecl} {r : Response} :
    (declaredResponse scope contentType d).result = .ok r ↔
      (∀ t ∈ d.body.toList ++ d.headers.values.map (·.type), t.nested? = none) ∧
        r = responseValue scope contentType d := by
  rw [declaredResponse, responseValue, List.forall_mem_append, List.forall_mem_map]
  cases d.body with
  | none =>
    simp only [Traced.result_bind_eq_ok, result_headersOf_eq_ok]
    simp [eq_comm]
  | some body =>
    simp only [Traced.result_bind_eq_ok, result_schemaOf_eq_ok, result_headersOf_eq_ok]
    constructor
    · rintro ⟨s?, ⟨hn, rfl⟩, headers, ⟨hheaders, rfl⟩, h⟩
      exact ⟨⟨by simpa using hn, hheaders⟩, (Except.ok.inj h).symm⟩
    · rintro ⟨⟨hn, hheaders⟩, rfl⟩
      exact ⟨_, ⟨hn body (by simp), rfl⟩, _, ⟨hheaders, rfl⟩, rfl⟩

theorem result_addResponses_eq_ok {method contentType : String}
    {responses out : Assoc UInt16 Response} (declared : List ResponseDecl) :
    (addResponses scope method contentType responses declared).result = .ok out ↔
      (∀ d ∈ declared, ∀ t ∈ d.body.toList ++ d.headers.values.map (·.type), t.nested? = none) ∧
      (declared.map (·.code)).Nodup ∧ (∀ d ∈ declared, d.code ∉ responses.keys) ∧
      out = responses ++ declared.map fun d => (d.code, responseValue scope contentType d) := by
  induction declared generalizing responses with
  | nil =>
    rw [addResponses, Traced.result_pure_eq_ok]
    simp
  | cons d rest ih =>
    rw [addResponses, Traced.result_bind_eq_ok]
    simp only [result_declaredResponse_eq_ok]
    by_cases hd : d.code ∈ responses.keys
    · simp [Assoc.contains_iff.2 hd, hd]
    -- the table grows at its end, since the status has not been declared
    have hcontains : responses.contains d.code = false := by
      rw [Bool.eq_false_iff, Ne, Assoc.contains_iff]
      exact hd
    simp only [hcontains, Bool.false_eq_true, if_false, ih, Assoc.insert_of_not_mem hd,
      Assoc.keys_append, Assoc.keys_cons, Assoc.keys_nil, List.mem_append, List.mem_singleton,
      List.forall_mem_cons, List.map_cons, List.nodup_cons, List.mem_map, not_exists, not_and,
      not_or]
    constructor
    · rintro ⟨r, ⟨hplain, rfl⟩, hrest, hnodup, hfresh, rfl⟩
      exact ⟨⟨hplain, hrest⟩, ⟨fun e he => (hfresh e he).2, hnodup⟩,
        ⟨hd, fun e he => (hfresh e he).1⟩, by simp⟩
    · rintro ⟨⟨hplain, hrest⟩, ⟨hother, hnodup⟩, ⟨-, hfresh⟩, rfl⟩
      exact ⟨_, ⟨hplain, rfl⟩, hrest, hnodup, fun e he => ⟨hfresh e he, hother e he⟩, by simp⟩

/-- Responses need plain types, and no status may be declared twice. -/
theorem result_responsesOf_eq_ok {m : MethodDescriptor} {route : Route}
    {out : Assoc UInt16 Response} :
    (responsesOf scope m route).result = .ok out ↔
      (∀ t ∈ m.responseTypes ++ m.headerTypes, t.nested? = none) ∧
      (∀ declared, m.directives.responses? = some declared → (declared.map (·.code)).Nodup) ∧
      out = responseValues scope m route := by
  rw [responsesOf, responseValues, MethodDescriptor.responseTypes, MethodDescriptor.headerTypes]
  cases hd : m.directives.responses? with
  | none =>
    simp only [Traced.result_bind_eq_ok, result_schemaOf_eq_ok]
    constructor
    · rintro ⟨s?, ⟨hn, rfl⟩, h⟩
      refine ⟨by simpa using hn, fun declared hdeclared => ?_, (Except.ok.inj h).symm⟩
      cases hdeclared
    · rintro ⟨hn, -, rfl⟩
      exact ⟨_, ⟨hn m.returns (by simp), rfl⟩, rfl⟩
  | some declared =>
    simp only [result_addResponses_eq_ok, Assoc.keys_nil, List.nil_append, Option.some.injEq,
      forall_eq', List.not_mem_nil, not_false_eq_true, implies_true, true_and]
    have htypes : (∀ t ∈ declared.filterMap (·.body) ++
          declared.flatMap fun d => d.headers.values.map (·.type), t.nested? = none) ↔
        ∀ d ∈ declared, ∀ t ∈ d.body.toList ++ d.headers.values.map (·.type),
          t.nested? = none := by
      simp only [List.mem_append, List.mem_filterMap, List.mem_flatMap, Option.mem_toList]
      constructor
      · rintro h d hd t (ht | ht)
        · exact h t (Or.inl ⟨d, hd, ht⟩)
        · exact h t (Or.inr ⟨d, hd, ht⟩)
      · rintro h t (⟨d, hd, ht⟩ | ⟨d, hd, ht⟩)
        · exact h d hd t (Or.inl ht)
        · exact h d hd t (Or.inr ht)
    rw [htypes]

/-! ## Methods -/

theorem result_reportUnbound (handler : TypeDescriptor) (m : MethodDescriptor) (path : String)
    (parameters : List Parameter) (names : List String) :
    (reportUnbound handler m path parameters names).result = .ok () := by
  induction names with
  | nil => rfl
  | cons v rest ih =>
    rw [reportUnbound]
    split
    · rw [Traced.result_report_bind]
      exact ih
    · exact ih

theorem result_operationsOnPath (handler : TypeDescriptor) (m : MethodDescriptor) (route : Route)
    (template : Operation) (path : String) (verbs : List Verb) :
    (operationsOnPath hooks handler m route { template with path } verbs).result =
      .ok (verbs.map (operationAt hooks handler m route template path)) := by
  induction verbs with
  | nil => rfl
  | cons verb rest ih =>
    rw [operationsOnPath, Traced.result_report_bind, Traced.result_bind_of_ok ih]
    rfl

theorem result_operationsOnPaths (handler : TypeDescriptor) (m : MethodDescriptor) (route : Route)
    (base : String) (template : Operation) (paths : List String) :
    (operationsOnPaths hooks handler m route base template paths).result =
      .ok (paths.flatMap fun path => route.verbs.map
        (operationAt hooks handler m route template (preparePath [base, path]))) := by
  induction paths with
  | nil => rfl
  | cons path rest ih =>
    rw [operationsOnPaths, Traced.result_bind_of_ok (result_reportUnbound ..),
      Traced.result_bind_of_ok (result_operationsOnPath ..), Traced.result_bind_of_ok ih]
    rfl

/-- Among the included parameters with a binding, those that are not listed are bound to the
body. -/
theorem isBodyBound_of_not_listing {p : ParameterDescriptor}
    (hb : p.directives.binding?.isSome = true) (hl : p.listing?.isSome = false) :
    p.isBodyBound = true := by
  obtain ⟨binding, hbinding⟩ := Option.isSome_iff_exists.1 hb
  rw [ParameterDescriptor.listing?, hbinding] at hl
  rw [ParameterDescriptor.isBodyBound, hbinding]
  cases hloc : binding.location with
  | body => simp [hloc]
  | path | query | header => simp [BindingLocation.parameterLocation?, hloc] at hl

theorem binding_isSome_of_isBodyBound {p : ParameterDescriptor} (h : p.isBodyBound = true) :
    p.directives.binding?.isSome = true := by
  rw [ParameterDescriptor.isBodyBound] at h
  exact Option.isSome_of_any h

theorem binding_isSome_of_listing {p : ParameterDescriptor} (h : p.listing?.isSome = true) :
    p.directives.binding?.isSome = true := by
  rw [ParameterDescriptor.listing?] at h
  exact Option.isSome_of_isSome_bind h

theorem mem_bodyBoundPlaces {m : MethodDescriptor} {i : Nat} :
    i ∈ bodyBoundPlaces hooks m m.parameters.zipIdx ↔
      ∃ p, m.parameters[i]? = some p ∧ p.isBodyBound = true ∧
        isIncludedParameter hooks m p = true := by
  simp only [bodyBoundPlaces, List.mem_map, List.mem_filter, Bool.and_eq_true, Prod.exists,
    List.mk_mem_zipIdx_iff_getElem?]
  constructor
  · rintro ⟨p, j, ⟨hp, hb, hi⟩, rfl⟩
    exact ⟨p, hp, hb, hi⟩
  · rintro ⟨p, hp, hb, hi⟩
    exact ⟨p, i, ⟨hp, hb, hi⟩, rfl⟩

/-- The parameter at the place of the body is bound to the body and included, or a file or a
container of files. -/
theorem of_bodyPlace? {m : MethodDescriptor} {i : Nat} (h : bodyPlace? hooks m = some i) :
    ∃ p, m.parameters[i]? = some p ∧
      ((p.isBodyBound = true ∧ isIncludedParameter hooks m p = true) ∨
        p.type.isFileLike = true) := by
  rw [bodyPlace?, Option.or_eq_some_iff] at h
  rcases h with h | ⟨-, h⟩
  · obtain ⟨p, hp, hbound⟩ := mem_bodyBoundPlaces.1 (List.mem_of_mem_head? h)
    exact ⟨p, hp, Or.inl hbound⟩
  · obtain ⟨⟨p, j⟩, hfind, rfl⟩ := Option.map_eq_some_iff.1 h
    have hfile := List.find?_some hfind
    rw [Bool.and_eq_true] at hfile
    exact ⟨p, List.mk_mem_zipIdx_iff_getElem?.1 (List.mem_of_find?_eq_some hfind),
      Or.inr hfile.1⟩

theorem bodyPlace?_of_isBodyBound {m : MethodDescriptor} {p : ParameterDescriptor} {i : Nat}
    (hone : (bodyBoundPlaces hooks m m.parameters.zipIdx).length ≤ 1)
    (hp : m.parameters[i]? = some p) (hb : p.isBodyBound = true)
    (hi : isIncludedParameter hooks m p = true) : bodyPlace? hooks m = some i := by
  have hmem : i ∈ bodyBoundPlaces hooks m m.parameters.zipIdx :=
    mem_bodyBoundPlaces.2 ⟨p, hp, hb, hi⟩
  rw [bodyPlace?]
  match hplaces : bodyBoundPlaces hooks m m.parameters.zipIdx with
  | [] =>
    rw [hplaces] at hmem
    cases hmem
  | [j] =>
    rw [hplaces, List.mem_singleton] at hmem
    rw [hmem]
    rfl
  | j :: k :: rest =>
    rw [hplaces] at hone
    simp at hone

/-- The parameters that need a plain type, as those that are listed and the one that becomes the
body, are the included ones with a binding. -/
theorem plain_parameters_iff {m : MethodDescriptor}
    (hone : (bodyBoundPlaces hooks m m.parameters.zipIdx).length ≤ 1) :
    ((∀ place ∈ m.parameters.zipIdx, bodyPlace? hooks m ≠ some place.2 →
        place.1.listing?.isSome = true → isIncludedParameter hooks m place.1 = true →
        place.1.type.nested? = none) ∧
      (∀ p, ((bodyPlace? hooks m).bind fun i => m.parameters[i]?) = some p →
        p.type.nested? = none)) ↔
    ∀ p ∈ m.parameters, isIncludedParameter hooks m p = true →
      p.directives.binding?.isSome = true → p.type.nested? = none := by
  constructor
  · rintro ⟨hlisted, hbody⟩ p hp hi hb
    obtain ⟨i, hget⟩ := List.mem_iff_getElem?.1 hp
    by_cases hplace : bodyPlace? hooks m = some i
    · exact hbody p (by rw [hplace, Option.bind_some, hget])
    · cases hl : p.listing?.isSome with
      | true => exact hlisted (p, i) (List.mk_mem_zipIdx_iff_getElem?.2 hget) hplace hl hi
      | false =>
        exact absurd (bodyPlace?_of_isBodyBound hone hget (isBodyBound_of_not_listing hb hl) hi)
          hplace
  · intro h
    refine ⟨fun place hmem _ hl hi => ?_, fun p hp => ?_⟩
    · have hget := List.mk_mem_zipIdx_iff_getElem?.1 hmem
      exact h place.1 (List.mem_of_getElem? hget) hi (binding_isSome_of_listing hl)
    · obtain ⟨i, hplace, hget⟩ := Option.bind_eq_some_iff.1 hp
      obtain ⟨q, hq, hcase⟩ := of_bodyPlace? hplace
      obtain rfl : q = p := Option.some.inj (hq.symm.trans hget)
      rcases hcase with ⟨hb, hi⟩ | hfile
      · exact h q (List.mem_of_getElem? hq) hi (binding_isSome_of_isBodyBound hb)
      · exact nested?_of_isFileLike hfile

/-- A routed method is accepted exactly if it is sound, on any base path and under any tag. -/
theorem result_operationsOfMethod_iff {handler : TypeDescriptor} {base tag : String}
    {m : MethodDescriptor} {route : Route} {out : List Operation} :
    (operationsOfMethod scope hooks handler base tag m route).result = .ok out ↔
      IsSoundMethod hooks m route ∧
        out = route.methodPaths.flatMap fun path => route.verbs.map <|
          operationAt hooks handler m route { methodTemplate scope hooks handler m route with tag }
            (preparePath [base, path]) := by
  rw [operationsOfMethod]
  by_cases hverbs : route.verbs = []
  · rw [hverbs]
    constructor
    · intro h
      cases h
    · intro h
      exact absurd hverbs h.1.has_verbs
  have hnonempty : route.verbs.isEmpty = false := List.isEmpty_eq_false_iff.2 hverbs
  simp only [hnonempty, Bool.false_eq_true, if_false]
  constructor
  · intro h
    obtain ⟨body, hb, h⟩ := Traced.result_bind_eq_ok.1 h
    obtain ⟨hone, rfl⟩ := result_bodyPosition_eq_ok.1 hb
    obtain ⟨parameters, hp, h⟩ := Traced.result_bind_eq_ok.1 h
    obtain ⟨hlisted, rfl⟩ := (result_parametersFrom_eq_ok _).1 hp
    obtain ⟨hbody, h⟩ := result_bind_requestBody_eq_ok.1 h
    obtain ⟨responses, hs, h⟩ := Traced.result_bind_eq_ok.1 h
    obtain ⟨hresponses, hcodes, rfl⟩ := result_responsesOf_eq_ok.1 hs
    rw [result_operationsOnPaths] at h
    have hparameters := (plain_parameters_iff hone).1 ⟨hlisted, hbody⟩
    rw [length_bodyBoundPlaces] at hone
    exact ⟨⟨hverbs, hone, hparameters, hresponses, hcodes⟩, (Except.ok.inj h).symm⟩
  · rintro ⟨⟨-, hone, hparameters, hresponses, hcodes⟩, rfl⟩
    rw [← length_bodyBoundPlaces] at hone
    obtain ⟨hlisted, hbody⟩ := (plain_parameters_iff hone).2 hparameters
    refine Traced.result_bind_eq_ok.2 ⟨_, result_bodyPosition_eq_ok.2 ⟨hone, rfl⟩, ?_⟩
    refine Traced.result_bind_eq_ok.2 ⟨_, (result_parametersFrom_eq_ok _).2 ⟨hlisted, rfl⟩, ?_⟩
    refine result_bind_requestBody_eq_ok.2 ⟨hbody, ?_⟩
    refine Traced.result_bind_eq_ok.2
      ⟨_, result_responsesOf_eq_ok.2 ⟨hresponses, hcodes, rfl⟩, ?_⟩
    exact result_operationsOnPaths ..

theorem result_operationsOfMethod_eq_ok {handler : TypeDescriptor} {m : MethodDescriptor}
    {route : Route} {out : List Operation} :
    (operationsOfMethod scope hooks handler (basePathOf handler) (handlerTag handler) m
        route).result = .ok out ↔
      IsSoundMethod hooks m route ∧ out = methodOperations scope hooks handler m route :=
  result_operationsOfMethod_iff

/-! ## Handlers -/

theorem result_operationsOfMethods_eq_ok {handler : TypeDescriptor} {out : List Operation}
    (methods : List MethodDescriptor) :
    (operationsOfMethods scope hooks handler (basePathOf handler) (handlerTag handler)
        methods).result = .ok out ↔
      (∀ m ∈ methods, ∀ route, includedRoute? hooks handler m = some route →
        IsSoundMethod hooks m route) ∧
      out = methods.flatMap fun m => (includedRoute? hooks handler m).toList.flatMap
        (methodOperations scope hooks handler m) := by
  induction methods generalizing out with
  | nil =>
    rw [operationsOfMethods, Traced.result_pure_eq_ok]
    simp
  | cons m rest ih =>
    rw [operationsOfMethods, List.forall_mem_cons, List.flatMap_cons]
    cases hr : m.directives.route? with
    | none =>
      have hnone : includedRoute? hooks handler m = none := by
        rw [includedRoute?, hr, ite_self]
      simp [hnone, ih]
    | some route =>
      by_cases hx : (m.directives.isExcluded || !hooks.includesOperation handler m) = true
      · have hnone : includedRoute? hooks handler m = none := by rw [includedRoute?, if_pos hx]
        simp only [hx, if_true]
        rw [Traced.result_report_bind]
        simp [hnone, ih]
      · have hsome : includedRoute? hooks handler m = some route := by
          rw [includedRoute?, if_neg hx, hr]
        simp only [hx, Bool.false_eq_true, if_false]
        simp only [Traced.result_bind_eq_ok, result_operationsOfMethod_eq_ok, ih, hsome,
          Option.some.injEq, forall_eq', Option.toList_some, List.flatMap_singleton]
        constructor
        · rintro ⟨here, ⟨hm, rfl⟩, others, ⟨hrest, rfl⟩, hout⟩
          exact ⟨⟨hm, hrest⟩, (Except.ok.inj hout).symm⟩
        · rintro ⟨⟨hm, hrest⟩, rfl⟩
          exact ⟨_, ⟨hm, rfl⟩, _, ⟨hrest, rfl⟩, rfl⟩

theorem basePath_eq_ok {handler : TypeDescriptor} {base : String} :
    basePath handler = .ok base ↔
      (∀ route, handler.directives.route? = some route → route.paths.length ≤ 1) ∧
        base = basePathOf handler := by
  rw [basePath, basePathOf]
  cases handler.directives.route? with
  | none => simp [eq_comm]
  | some route =>
    simp only [Option.map_some, Option.some.injEq, forall_eq']
    rcases route.paths with _ | ⟨path, _ | ⟨path', rest⟩⟩
    · simp [eq_comm]
    · simp [eq_comm]
    · simp

/-- A handler that is not excluded is accepted exactly if it is sound. -/
theorem result_operationsOf_eq_ok {handler : TypeDescriptor} {out : List Operation} :
    (operationsOf scope hooks handler).result = .ok out ↔
      (handler.directives.isExcluded = false → IsSoundHandler hooks handler) ∧
        out = handlerOperations scope hooks handler := by
  rw [operationsOf, handlerOperations]
  cases handler.directives.isExcluded with
  | true =>
    simp only [if_true]
    rw [Traced.result_report_bind, Traced.result_pure_eq_ok]
    simp
  | false =>
    simp only [Bool.false_eq_true, if_false, forall_const]
    simp only [Traced.result_bind_eq_ok, Traced.result_lift, basePath_eq_ok]
    constructor
    · rintro ⟨base, ⟨hbase, rfl⟩, h⟩
      obtain ⟨hmethods, rfl⟩ := (result_operationsOfMethods_eq_ok _).1 h
      exact ⟨⟨hbase, hmethods⟩, rfl⟩
    · rintro ⟨⟨hbase, hmethods⟩, rfl⟩
      exact ⟨_, ⟨hbase, rfl⟩, (result_operationsOfMethods_eq_ok _).2 ⟨hmethods, rfl⟩⟩

/-- Handlers are accepted exactly if all that are not excluded are sound, and their operations are
those of each of them in turn. -/
theorem result_allOperations_eq_ok {out : List Operation} (handlers : List TypeDescriptor) :
    (allOperations scope hooks handlers).result = .ok out ↔
      (∀ handler ∈ handlers, handler.directives.isExcluded = false →
        IsSoundHandler hooks handler) ∧
      out = handlers.flatMap (handlerOperations scope hooks) := by
  induction handlers generalizing out with
  | nil =>
    rw [allOperations, Traced.result_pure_eq_ok]
    simp
  | cons handler rest ih =>
    rw [allOperations, List.forall_mem_cons, List.flatMap_cons]
    simp only [Traced.result_bind_eq_ok, result_operationsOf_eq_ok, ih]
    constructor
    · rintro ⟨here, ⟨hhandler, rfl⟩, others, ⟨hrest, rfl⟩, hout⟩
      exact ⟨⟨hhandler, hrest⟩, (Except.ok.inj hout).symm⟩
    · rintro ⟨⟨hhandler, hrest⟩, rfl⟩
      exact ⟨_, ⟨hhandler, rfl⟩, _, ⟨hrest, rfl⟩, rfl⟩

end ApiContract
