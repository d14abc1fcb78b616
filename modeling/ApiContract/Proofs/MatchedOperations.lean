import ApiContract.Proofs.MatchedComponents
/-!
# Operations of matching graphs, and their documents

In matching scopes matching handlers have the same operations, or fail with the same fault. So two
graphs that match are compiled into the same document.

* `bodyPosition_paired` : the body of matching methods is the same parameter.
* `operationsOfMethod_paired`, `operationsOf_paired` : operations.
* `GraphMatch.result_generate_eq` : the results of two generations from matching graphs.
-/

namespace ApiContract

open List (Forall₂)
open Traced (Paired)

variable {hooks hooks' : Hooks} {s s' : Scope} {t t' : TypeDescriptor} {m m' : MethodDescriptor}
  {p p' : ParameterDescriptor}

/-! ## The parameter that becomes the body -/

namespace ParameterMatch

theorem isIncluded_eq (h : ParameterMatch hooks hooks' m m' p p') :
    isIncludedParameter hooks m p = isIncludedParameter hooks' m' p' := by
  cases h with
  | shown h => exact h
  | hidden h h' => rw [h, h']

/-- Included parameters that match are the same. -/
theorem eq_of_included (h : ParameterMatch hooks hooks' m m' p p')
    (hi : isIncludedParameter hooks m p = true) : p = p' := by
  cases h with
  | shown => rfl
  | hidden h =>
    rw [h] at hi
    cases hi

/-- A question that is only asked of included parameters has the same answer. -/
theorem and_isIncluded_eq (h : ParameterMatch hooks hooks' m m' p p')
    (f : ParameterDescriptor → Bool) :
    (f p && isIncludedParameter hooks m p) = (f p' && isIncludedParameter hooks' m' p') := by
  rw [← h.isIncluded_eq]
  cases hi : isIncludedParameter hooks m p with
  | true => rw [h.eq_of_included hi]
  | false => simp

end ParameterMatch

/-- Parameters that match, at one place. -/
def PlaceMatch (hooks hooks' : Hooks) (m m' : MethodDescriptor)
    (place place' : ParameterDescriptor × Nat) : Prop :=
  ParameterMatch hooks hooks' m m' place.1 place'.1 ∧ place.2 = place'.2

theorem forall₂_zipIdx {ps ps' : List ParameterDescriptor}
    (h : Forall₂ (ParameterMatch hooks hooks' m m') ps ps') (n : Nat) :
    Forall₂ (PlaceMatch hooks hooks' m m') (ps.zipIdx n) (ps'.zipIdx n) := by
  induction h generalizing n with
  | nil => exact .nil
  | cons hp hrest ih => exact .cons ⟨hp, rfl⟩ (ih (n + 1))

theorem bodyBoundPlaces_eq {places places' : List (ParameterDescriptor × Nat)}
    (h : Forall₂ (PlaceMatch hooks hooks' m m') places places') :
    bodyBoundPlaces hooks m places = bodyBoundPlaces hooks' m' places' := by
  have hkept : Forall₂ (PlaceMatch hooks hooks' m m')
      (places.filter fun place => place.1.isBodyBound && isIncludedParameter hooks m place.1)
      (places'.filter fun place => place.1.isBodyBound && isIncludedParameter hooks' m' place.1) :=
    forall₂_filter h (fun _ _ hp => hp.1.and_isIncluded_eq _) fun _ _ hp _ => hp
  exact map_eq_of_forall₂ hkept fun _ _ hp => hp.2

theorem firstFilePlace?_eq {places places' : List (ParameterDescriptor × Nat)}
    (h : Forall₂ (PlaceMatch hooks hooks' m m') places places') :
    firstFilePlace? hooks m places = firstFilePlace? hooks' m' places' := by
  rw [firstFilePlace?, firstFilePlace?]
  have hfound := forall₂_find? h fun _ _ hp =>
    hp.1.and_isIncluded_eq fun p => p.type.isFileLike
  rcases optionRel_cases hfound with ⟨hn, hn'⟩ | ⟨place, place', hp, hp', hmatch⟩
  · rw [hn, hn']
  · rw [hp, hp']
    exact congrArg some hmatch.2

/-- The parameter at the place of the body is included. -/
theorem exists_included_of_bodyPlace? {i : Nat} (h : bodyPlace? hooks m = some i) :
    ∃ p, m.parameters[i]? = some p ∧ isIncludedParameter hooks m p = true := by
  rw [bodyPlace?, Option.or_eq_some_iff] at h
  rcases h with h | ⟨-, h⟩
  · obtain ⟨p, hp, -, hi⟩ := mem_bodyBoundPlaces.1 (List.mem_of_mem_head? h)
    exact ⟨p, hp, hi⟩
  · obtain ⟨⟨p, j⟩, hfind, rfl⟩ := Option.map_eq_some_iff.1 h
    have hfile := List.find?_some hfind
    rw [Bool.and_eq_true] at hfile
    exact ⟨p, List.mk_mem_zipIdx_iff_getElem?.1 (List.mem_of_find?_eq_some hfind), hfile.2⟩

theorem bodyParameter_eq
    (h : Forall₂ (ParameterMatch hooks hooks' m m') m.parameters m'.parameters) :
    ((bodyPlace? hooks m).bind fun i => m.parameters[i]?) =
      (bodyPlace? hooks m).bind fun i => m'.parameters[i]? := by
  cases hbody : bodyPlace? hooks m with
  | none => rfl
  | some i =>
    obtain ⟨p, hp, hi⟩ := exists_included_of_bodyPlace? hbody
    rcases optionRel_cases (forall₂_getElem? h i) with ⟨hn, -⟩ | ⟨q, q', hq, hq', hmatch⟩
    · rw [hn] at hp
      cases hp
    · obtain rfl : q = p := Option.some.inj (hq.symm.trans hp)
      rw [Option.bind_some, Option.bind_some, hq, hq', hmatch.eq_of_included hi]

/-- The body of matching methods stands at the same place and is the same parameter. -/
theorem bodyPosition_paired (hname : m.name = m'.name)
    (h : Forall₂ (ParameterMatch hooks hooks' m m') m.parameters m'.parameters) :
    Paired (fun body body' => body = body' ∧
        (body.bind fun i => m.parameters[i]?) = body'.bind fun i => m'.parameters[i]?)
      (bodyPosition hooks m) (bodyPosition hooks' m') := by
  have hplaces := forall₂_zipIdx h 0
  -- parameters that are left out keep their places, so places can be compared
  have heq : (bodyPosition hooks m).result = (bodyPosition hooks' m').result := by
    rw [bodyPosition, bodyPosition, Traced.result_bind_of_ok (result_bodyBound m _),
      Traced.result_bind_of_ok (result_bodyBound m' _), bodyBoundPlaces_eq hplaces]
    rcases bodyBoundPlaces hooks' m' m'.parameters.zipIdx with _ | ⟨i, _ | ⟨j, rest⟩⟩
    · dsimp only
      rw [result_firstFile, result_firstFile, firstFilePlace?_eq hplaces]
    · rfl
    · dsimp only
      rw [hname]
  cases hbody : (bodyPosition hooks m).result with
  | error fault => exact .of_error hbody (heq ▸ hbody)
  | ok body =>
    obtain ⟨-, rfl⟩ := result_bodyPosition_eq_ok.1 hbody
    exact .of_ok hbody (heq ▸ hbody) ⟨rfl, bodyParameter_eq h⟩

/-! ## Parameters and request bodies -/

/-- A parameter that is not included becomes none of the operation. -/
theorem result_parameterOf_of_hidden (hi : isIncludedParameter hooks m p = false) :
    (parameterOf s hooks m p).result = .ok none := by
  rw [parameterOf]
  split
  · rfl
  · split
    · rfl
    · rw [Traced.result_bind_of_ok (result_includesParameter m p), hi]
      rfl

section

variable (hz : hooks.interceptorCount = 0) (hz' : hooks'.interceptorCount = 0)

include hz hz'

theorem parameterOf_paired (h : ScopeMatch hooks hooks' s s') (hname : m.name = m'.name)
    (hp : ParameterMatch hooks hooks' m m' p p') :
    Paired Eq (parameterOf s hooks m p) (parameterOf s' hooks' m' p') := by
  cases hp with
  | hidden hi hi' =>
    exact .of_ok (result_parameterOf_of_hidden hi) (result_parameterOf_of_hidden hi') rfl
  | shown hi =>
    have hincluded : Paired Eq (includesParameter hooks m p) (includesParameter hooks' m' p) :=
      .of_ok (result_includesParameter m p) (result_includesParameter m' p) hi
    rw [parameterOf, parameterOf]
    split
    · exact .refl _
    · split
      · exact .refl _
      · apply hincluded.bind_same
        intro included
        cases included with
        | false => exact .refl _
        | true =>
          rw [if_pos rfl, if_pos rfl, boundParameter, boundParameter, hname]
          apply ((h.schemaOf_paired .direct p.type).mapFault _).bind_same
          intro resolved
          cases resolved with
          | none => exact .refl _
          | some schema =>
            dsimp only
            rw [Hooks.interceptParameter_eq hz, Hooks.interceptParameter_eq hz']
            exact .refl _

theorem parametersFrom_paired (h : ScopeMatch hooks hooks' s s') (hname : m.name = m'.name)
    (body : Option Nat) {places places' : List (ParameterDescriptor × Nat)}
    (hp : Forall₂ (PlaceMatch hooks hooks' m m') places places') :
    Paired Eq (parametersFrom s hooks m body places)
      (parametersFrom s' hooks' m' body places') := by
  induction hp with
  | nil => exact .refl _
  | @cons place place' rest rest' hplace hrest ih =>
    obtain ⟨p, i⟩ := place
    obtain ⟨p', i'⟩ := place'
    obtain ⟨hp, rfl⟩ : ParameterMatch hooks hooks' m m' p p' ∧ i = i' := hplace
    rw [parametersFrom, parametersFrom]
    split
    · exact ih
    · apply (parameterOf_paired hz hz' h hname hp).bind_same
      intro produced
      apply ih.bind_same
      intro others
      exact .refl _

theorem requestBodyOf_paired (h : ScopeMatch hooks hooks' s s') (hname : m.name = m'.name)
    (route : Route) (p : ParameterDescriptor) :
    Paired Eq (requestBodyOf s hooks m route p) (requestBodyOf s' hooks' m' route p) := by
  have hcontent : Paired Eq (bodyContent s m p) (bodyContent s' m' p) := by
    rw [bodyContent, bodyContent, hname]
    split
    · exact .refl _
    · split
      · exact .refl _
      · apply ((h.schemaOf_paired .direct p.type).mapFault _).bind_same
        intro resolved
        exact .refl _
  rw [requestBodyOf, requestBodyOf]
  apply hcontent.bind_same
  intro content
  cases content with
  | none => exact .refl _
  | some content =>
    dsimp only
    rw [Hooks.interceptRequestBody_eq hz, Hooks.interceptRequestBody_eq hz']
    exact .refl _

/-- What comes after the request body is paired if it is for each one that there can be. -/
theorem bind_requestBody_paired {α : Type} (h : ScopeMatch hooks hooks' s s')
    (hname : m.name = m'.name) (route : Route) (body : Option ParameterDescriptor)
    {next next' : Option RequestBody → Traced α} (hnext : ∀ r, Paired Eq (next r) (next' r)) :
    Paired Eq
      (match body with
        | none => do
          let r ← pure none
          next r
        | some p => do
          let r ← requestBodyOf s hooks m route p
          next r)
      (match body with
        | none => do
          let r ← pure none
          next' r
        | some p => do
          let r ← requestBodyOf s' hooks' m' route p
          next' r) := by
  cases body with
  | none =>
    apply (Paired.refl _).bind_same
    intro r
    exact hnext r
  | some p =>
    apply (requestBodyOf_paired hz hz' h hname route p).bind_same
    intro r
    exact hnext r

end

/-! ## Responses -/

theorem headersOf_paired (h : ScopeMatch hooks hooks' s s') (headers : Assoc String HeaderDecl) :
    Paired Eq (headersOf s headers) (headersOf s' headers) := by
  induction headers with
  | nil => exact .refl _
  | cons header rest ih =>
    obtain ⟨name, d⟩ := header
    rw [headersOf, headersOf]
    apply (h.schemaOf_paired .direct d.type).bind_same
    intro schema
    apply Paired.bind_same ih
    intro others
    exact .refl _

theorem declaredResponse_paired (h : ScopeMatch hooks hooks' s s') (contentType : String)
    (d : ResponseDecl) :
    Paired Eq (declaredResponse s contentType d) (declaredResponse s' contentType d) := by
  rw [declaredResponse, declaredResponse]
  cases d.body with
  | none =>
    apply (Paired.refl _).bind_same
    intro schema
    apply (headersOf_paired h d.headers).bind_same
    intro headers
    exact .refl _
  | some body =>
    apply (h.schemaOf_paired .direct body).bind_same
    intro schema
    apply (headersOf_paired h d.headers).bind_same
    intro headers
    exact .refl _

theorem addResponses_paired (h : ScopeMatch hooks hooks' s s') (method contentType : String)
    (responses : Assoc UInt16 Response) (declared : List ResponseDecl) :
    Paired Eq (addResponses s method contentType responses declared)
      (addResponses s' method contentType responses declared) := by
  induction declared generalizing responses with
  | nil => exact .refl _
  | cons d rest ih =>
    rw [addResponses, addResponses]
    apply (declaredResponse_paired h contentType d).bind_same
    intro response
    split
    · exact .fail _
    · exact ih _

theorem responsesOf_paired (h : ScopeMatch hooks hooks' s s') (hname : m.name = m'.name)
    (hreturns : m.returns = m'.returns) (hdirectives : m.directives = m'.directives)
    (route : Route) : Paired Eq (responsesOf s m route) (responsesOf s' m' route) := by
  rw [responsesOf, responsesOf, hname, hreturns, hdirectives]
  dsimp only
  split
  · exact addResponses_paired h _ _ _ _
  · apply (h.schemaOf_paired .direct m'.returns).bind_same
    intro schema
    exact .refl _

/-! ## Operations -/

/-- One step through the methods of a handler. -/
theorem result_operationsOfMethods_cons (base tag : String) (m : MethodDescriptor)
    (rest : List MethodDescriptor) :
    (operationsOfMethods s hooks t base tag (m :: rest)).result =
      match includedRoute? hooks t m with
      | none => (operationsOfMethods s hooks t base tag rest).result
      | some route => (do
          let here ← operationsOfMethod s hooks t base tag m route
          let others ← operationsOfMethods s hooks t base tag rest
          pure (here ++ others)).result := by
  rw [operationsOfMethods, includedRoute?]
  cases m.directives.route? with
  | none => rw [ite_self]
  | some route =>
    dsimp only
    split
    · exact Traced.result_report_bind _ _
    · rfl

section

variable (hz : hooks.interceptorCount = 0) (hz' : hooks'.interceptorCount = 0)

include hz hz'

theorem operationsOnPaths_paired (hname : m.name = m'.name) (route : Route) (base : String)
    (template : Operation) (paths : List String) :
    Paired Eq (operationsOnPaths hooks t m route base template paths)
      (operationsOnPaths hooks' t' m' route base template paths) := by
  have hoperation : operationAt hooks t m route template =
      operationAt hooks' t' m' route template := by
    funext path verb
    rw [operationAt, operationAt, Hooks.interceptOperation_eq hz, Hooks.interceptOperation_eq hz',
      operationId, operationId, hname]
  apply Paired.of_result_eq
  rw [result_operationsOnPaths, result_operationsOnPaths, hoperation]

/-- Matching methods that are included have the same operations. -/
theorem operationsOfMethod_paired (h : ScopeMatch hooks hooks' s s') (ht : t.name = t'.name)
    (htype : t.directives = t'.directives) (hname : m.name = m'.name)
    (hreturns : m.returns = m'.returns) (hdirectives : m.directives = m'.directives)
    (hp : Forall₂ (ParameterMatch hooks hooks' m m') m.parameters m'.parameters)
    (base tag : String) (route : Route) :
    Paired Eq (operationsOfMethod s hooks t base tag m route)
      (operationsOfMethod s' hooks' t' base tag m' route) := by
  rw [operationsOfMethod, operationsOfMethod, ht, htype]
  split
  · rw [hname]
    exact .fail _
  apply (bodyPosition_paired hname hp).bind
  rintro body _ ⟨rfl, hbody⟩
  apply (parametersFrom_paired hz hz' h hname body (forall₂_zipIdx hp 0)).bind_same
  intro parameters
  rw [hbody]
  apply bind_requestBody_paired hz hz' h hname route
  intro requestBody
  apply (responsesOf_paired h hname hreturns hdirectives route).bind_same
  intro responses
  rw [hdirectives]
  exact operationsOnPaths_paired hz hz' hname route base _ _

/-- Methods that are left out on both sides make no difference. -/
theorem operationsOfMethods_paired (h : ScopeMatch hooks hooks' s s') (ht : t.name = t'.name)
    (htype : t.directives = t'.directives) (base tag : String)
    {methods methods' : List MethodDescriptor}
    (hm : Forall₂ (MethodMatch hooks hooks' t t') methods methods') :
    Paired Eq (operationsOfMethods s hooks t base tag methods)
      (operationsOfMethods s' hooks' t' base tag methods') := by
  induction hm with
  | nil => exact .refl _
  | @cons m m' rest rest' hm hrest ih =>
    apply Paired.of_result_eq
    rw [result_operationsOfMethods_cons, result_operationsOfMethods_cons]
    cases hm with
    | hidden hn hn' =>
      rw [hn, hn']
      exact ih.result_eq
    | shown hname hreturns hdirectives hroute hp =>
      rw [hroute]
      cases includedRoute? hooks' t' m' with
      | none => exact ih.result_eq
      | some route =>
        have hhere := operationsOfMethod_paired hz hz' h ht htype hname hreturns hdirectives hp base
          tag route
        apply Paired.result_eq
        apply hhere.bind_same
        intro here
        apply ih.bind_same
        intro others
        exact .refl _

/-- Matching handlers have the same operations. -/
theorem operationsOf_paired (h : ScopeMatch hooks hooks' s s')
    (ht : HandlerMatch hooks hooks' t t') :
    Paired Eq (operationsOf s hooks t) (operationsOf s' hooks' t') := by
  obtain ⟨ht, hroutes⟩ := ht
  obtain ⟨hdirectives, hmethods⟩ := ht.handler hroutes
  have hbase : basePath t = basePath t' := by rw [basePath, basePath, hdirectives, ht.name_eq]
  have htag : handlerTag t = handlerTag t' := by
    rw [handlerTag, handlerTag, hdirectives, ht.simpleName_eq]
  rw [operationsOf, operationsOf, ← hdirectives, hbase, htag]
  split
  · exact .report_bind _ _ (.refl _)
  · next hexcluded =>
    apply (Paired.refl _).bind_same
    intro base
    exact operationsOfMethods_paired hz hz' h ht.name_eq hdirectives base _
      (hmethods (Bool.eq_false_iff.2 hexcluded))

theorem allOperations_paired (h : ScopeMatch hooks hooks' s s')
    {handlers handlers' : List TypeDescriptor}
    (ht : Forall₂ (HandlerMatch hooks hooks') handlers handlers') :
    Paired Eq (allOperations s hooks handlers) (allOperations s' hooks' handlers') := by
  induction ht with
  | nil => exact .refl _
  | cons ht hrest ih =>
    rw [allOperations, allOperations]
    apply (operationsOf_paired hz hz' h ht).bind_same
    intro here
    apply ih.bind_same
    intro others
    exact .refl _

/-! ## Generations -/

/-- Graphs that match are compiled into the same document, or refused for the same fault. -/
theorem GraphMatch.result_generate_eq {g g' : TypeGraph} (h : GraphMatch hooks hooks' g g')
    (config : Config) : (generate config hooks g).result = (generate config hooks' g').result := by
  rw [result_generate, result_generate, h.resolvePolymorphism_eq config]
  have hrest : ∀ models bases handlers,
      (generateIn config hooks g (generationScope config hooks g models bases) handlers).result =
        (generateIn config hooks' g' (generationScope config hooks' g' models bases)
          handlers).result := by
    intro models bases handlers
    have hscope := h.scopeMatch config models bases
    rw [generateIn, generateIn]
    apply Paired.result_eq
    apply (componentsOf_paired hz hz' hscope [] [] (h.candidates config)).bind_same
    intro components
    apply (allOperations_paired hz hz' hscope (h.handlers handlers)).bind_same
    intro operations
    exact .refl _
  simp only [hrest]

end

end ApiContract
