import ApiContract.Proofs.OperationValues
/-!
# Reports on unbound variables

For every path of a routed method the variables without a path parameter of their name are reported,
and nothing else in the extraction of the method reports such a variable.

* `Event.isUnbound`, `Traced.unbound` : the reports that matter here.
* `Traced.IsSilent` : a computation makes no such report, with one rule for each way to build
  computations; all steps before the paths are silent.
* `reportsOn` : what is reported for a path.
* `unbound_operationsOfMethod` : what is reported for a method.
-/

namespace ApiContract

/-- Whether an event reports a variable that has no parameter. -/
def Event.isUnbound : Event → Bool
  | .unboundVariable .. => true
  | _ => false

namespace Traced

variable {α β : Type}

/-- The reports on unbound variables among the events of a computation. -/
def unbound (x : Traced α) : List Event := x.events.filter Event.isUnbound

theorem unbound_bind {x : Traced α} {a : α} (h : x.result = .ok a) (f : α → Traced β) :
    (x >>= f).unbound = x.unbound ++ (f a).unbound := by
  rw [unbound, events_bind_ok h, List.filter_append, ← unbound, ← unbound]

/-- A computation reports no unbound variable. -/
def IsSilent (x : Traced α) : Prop := x.unbound = []

namespace IsSilent

theorem pure (a : α) : IsSilent (Pure.pure a) := rfl

theorem fail (fault : Fault) : IsSilent (Traced.fail fault : Traced α) := rfl

theorem report {e : Event} (h : e.isUnbound = false) : IsSilent (Traced.report e) :=
  List.filter_cons_of_neg (by simp [h])

theorem mapFault {x : Traced α} (h : x.IsSilent) (g : Fault → Fault) : (x.mapFault g).IsSilent := h

theorem bind {x : Traced α} (h : x.IsSilent) {f : α → Traced β} (hf : ∀ a, (f a).IsSilent) :
    (x >>= f).IsSilent := by
  cases hr : x.result with
  | ok a =>
    rw [IsSilent, unbound_bind hr, show x.unbound = [] from h, List.nil_append]
    exact hf a
  | error fault =>
    rw [IsSilent, unbound, events_bind_error hr]
    exact h

/-- A silent step that succeeds can be left out of the reports. -/
theorem unbound_bind {x : Traced α} (hx : x.IsSilent) {a : α} (h : x.result = .ok a)
    (f : α → Traced β) : (x >>= f).unbound = (f a).unbound := by
  rw [Traced.unbound_bind h, show x.unbound = [] from hx, List.nil_append]

theorem exists_of_bind_eq_ok {x : Traced α} (hx : x.IsSilent) {f : α → Traced β} {b : β}
    (h : (x >>= f).result = .ok b) :
    ∃ a, x.result = .ok a ∧ (f a).result = .ok b ∧ (x >>= f).unbound = (f a).unbound := by
  obtain ⟨a, ha, hb⟩ := result_bind_eq_ok.1 h
  exact ⟨a, ha, hb, hx.unbound_bind ha f⟩

end IsSilent

end Traced

open Traced (IsSilent)

variable {scope : Scope} {hooks : Hooks}

/-! ## Silent steps -/

theorem isSilent_namedSchema (style : ReferenceStyle) (name : String) :
    (namedSchema scope style name).IsSilent := by
  rw [namedSchema]
  split
  · exact (IsSilent.report rfl).bind fun _ => .pure _
  · split
    · exact .pure _
    · exact .pure _

theorem isSilent_containerSchema (type element : TypeRef) {items : Traced (Option Schema)}
    (h : items.IsSilent) : (containerSchema type element items).IsSilent := by
  rw [containerSchema]
  split
  · exact .fail _
  · exact h.bind fun _ => .pure _

theorem isSilent_schemaOf (style : ReferenceStyle) (t : TypeRef) :
    (schemaOf scope style t).IsSilent := by
  induction t with
  | list element ih => exact isSilent_containerSchema _ _ ih
  | array element ih => exact isSilent_containerSchema _ _ ih
  | map value ih => exact ih.bind fun _ => .pure _
  | envelope inner ih => exact ih
  | named name => exact (isSilent_namedSchema style name).bind fun _ => .pure _
  | _ => exact .pure _

theorem isSilent_includesParameter (m : MethodDescriptor) (p : ParameterDescriptor) :
    (includesParameter hooks m p).IsSilent := by
  rw [includesParameter]
  split
  · exact (IsSilent.report rfl).bind fun _ => .pure _
  · exact .pure _

theorem isSilent_bodyBound (m : MethodDescriptor) (places : List (ParameterDescriptor × Nat)) :
    (bodyBound hooks m places).IsSilent := by
  induction places with
  | nil => exact .pure _
  | cons place rest ih =>
    rw [bodyBound]
    split
    · exact (isSilent_includesParameter m _).bind fun _ => ih.bind fun _ => .pure _
    · exact ih

theorem isSilent_firstFile (m : MethodDescriptor) (places : List (ParameterDescriptor × Nat)) :
    (firstFile hooks m places).IsSilent := by
  induction places with
  | nil => exact .pure _
  | cons place rest ih =>
    rw [firstFile]
    split
    · refine (isSilent_includesParameter m _).bind fun included => ?_
      split
      · exact .pure _
      · exact ih
    · exact ih

theorem isSilent_bodyPosition (m : MethodDescriptor) : (bodyPosition hooks m).IsSilent := by
  refine (isSilent_bodyBound m _).bind fun places => ?_
  split
  · exact isSilent_firstFile m _
  · exact .pure _
  · exact .fail _

theorem isSilent_parameterOf (m : MethodDescriptor) (p : ParameterDescriptor) :
    (parameterOf scope hooks m p).IsSilent := by
  have hbound : ∀ binding location,
      (boundParameter scope hooks m p binding location).IsSilent := by
    intro binding location
    refine ((isSilent_schemaOf .direct p.type).mapFault _).bind fun resolved => ?_
    split
    · exact (IsSilent.report rfl).bind fun _ => .pure _
    · exact .pure _
  rw [parameterOf]
  split
  · exact .pure _
  · split
    · exact .pure _
    · refine (isSilent_includesParameter m p).bind fun included => ?_
      split
      · exact hbound _ _
      · exact .pure _

theorem isSilent_parametersFrom (m : MethodDescriptor) (body : Option Nat)
    (places : List (ParameterDescriptor × Nat)) :
    (parametersFrom scope hooks m body places).IsSilent := by
  induction places with
  | nil => exact .pure _
  | cons place rest ih =>
    rw [parametersFrom]
    split
    · exact ih
    · exact (isSilent_parameterOf m _).bind fun _ => ih.bind fun _ => .pure _

theorem isSilent_requestBodyOf (m : MethodDescriptor) (route : Route) (p : ParameterDescriptor) :
    (requestBodyOf scope hooks m route p).IsSilent := by
  have hcontent : (bodyContent scope m p).IsSilent := by
    rw [bodyContent]
    split
    · exact .pure _
    · split
      · exact .pure _
      · refine ((isSilent_schemaOf .direct p.type).mapFault _).bind fun resolved => ?_
        split
        · exact (IsSilent.report rfl).bind fun _ => .pure _
        · exact .pure _
  refine hcontent.bind fun content => ?_
  split
  · exact .pure _
  · exact .pure _

theorem isSilent_headersOf (headers : Assoc String HeaderDecl) :
    (headersOf scope headers).IsSilent := by
  induction headers with
  | nil => exact .pure _
  | cons header rest ih =>
    exact (isSilent_schemaOf .direct _).bind fun _ => ih.bind fun _ => .pure _

theorem isSilent_addResponses (method contentType : String) (declared : List ResponseDecl)
    (responses : Assoc UInt16 Response) :
    (addResponses scope method contentType responses declared).IsSilent := by
  have hresponse : ∀ d, (declaredResponse scope contentType d).IsSilent := by
    intro d
    rw [declaredResponse]
    cases d.body with
    | none => exact (isSilent_headersOf d.headers).bind fun _ => .pure _
    | some body =>
      exact (isSilent_schemaOf .direct body).bind fun _ =>
        (isSilent_headersOf d.headers).bind fun _ => .pure _
  induction declared generalizing responses with
  | nil => exact .pure _
  | cons d rest ih =>
    refine (hresponse d).bind fun response => ?_
    split
    · exact .fail _
    · exact ih _

theorem isSilent_responsesOf (m : MethodDescriptor) (route : Route) :
    (responsesOf scope m route).IsSilent := by
  rw [responsesOf]
  split
  · exact isSilent_addResponses _ _ _ _
  · exact (isSilent_schemaOf .direct _).bind fun _ => .pure _

/-! ## Reports of paths -/

/-- The names of the path parameters among some parameters. -/
def pathParameterNames (parameters : List Parameter) : List String :=
  (parameters.filter fun p => p.location = .path).map (·.name)

/-- What is reported of the variables of a path that have no parameter. -/
def reportsOn (handler : TypeDescriptor) (m : MethodDescriptor) (parameters : List Parameter)
    (path : String) (names : List String) : List Event :=
  (names.filter fun v => v ∉ pathParameterNames parameters).map
    (.unboundVariable · path handler.name m.name)

theorem unbound_reportUnbound (handler : TypeDescriptor) (m : MethodDescriptor) (path : String)
    (parameters : List Parameter) (names : List String) :
    (reportUnbound handler m path parameters names).unbound =
      reportsOn handler m parameters path names := by
  induction names with
  | nil => rfl
  | cons v rest ih =>
    have hbound : (parameters.any fun p => p.location == .path && p.name == v) =
        decide (v ∈ pathParameterNames parameters) := by
      rw [Bool.eq_iff_iff]
      simp [pathParameterNames, and_assoc]
    rw [reportUnbound, hbound]
    by_cases hv : v ∈ pathParameterNames parameters
    · have hdrop : reportsOn handler m parameters path (v :: rest) =
          reportsOn handler m parameters path rest := by simp [reportsOn, hv]
      simpa [hv, hdrop] using ih
    · have hkeep : reportsOn handler m parameters path (v :: rest) =
          .unboundVariable v path handler.name m.name ::
            reportsOn handler m parameters path rest := by simp [reportsOn, hv]
      rw [hkeep, ← ih]
      simp only [hv, decide_false, Bool.not_false, if_true]
      exact Traced.unbound_bind (Traced.result_report _) _

theorem isSilent_operationsOnPath (handler : TypeDescriptor) (m : MethodDescriptor)
    (route : Route) (template : Operation) (verbs : List Verb) :
    (operationsOnPath hooks handler m route template verbs).IsSilent := by
  induction verbs with
  | nil => exact .pure _
  | cons verb rest ih =>
    exact (IsSilent.report rfl).bind fun _ => ih.bind fun _ => .pure _

/-- The reports on the paths of a method, one path after the other. -/
theorem unbound_operationsOnPaths (handler : TypeDescriptor) (m : MethodDescriptor) (route : Route)
    (base : String) (template : Operation) (paths : List String) :
    (operationsOnPaths hooks handler m route base template paths).unbound =
      paths.flatMap fun path => reportsOn handler m template.parameters (preparePath [base, path])
        (pathVariables (preparePath [base, path])) := by
  induction paths with
  | nil => rfl
  | cons path rest ih =>
    have hsilent : (operationsOnPath hooks handler m route
        { template with path := preparePath [base, path] } route.verbs).IsSilent :=
      isSilent_operationsOnPath handler m route _ route.verbs
    rw [operationsOnPaths, Traced.unbound_bind (result_reportUnbound ..), unbound_reportUnbound,
      hsilent.unbound_bind (result_operationsOnPath ..),
      Traced.unbound_bind (result_operationsOnPaths ..), ih, List.flatMap_cons]
    exact congrArg (_ ++ ·) (List.append_nil _)

/-- The reports from the request body on. -/
theorem exists_of_bind_requestBody_eq_ok {α : Type} {m : MethodDescriptor} {route : Route}
    {body : Option ParameterDescriptor} {next : Option RequestBody → Traced α} {x : Traced α}
    {out : α}
    (hx : x = match body with
      | none => do
        let r ← pure none
        next r
      | some p => do
        let r ← requestBodyOf scope hooks m route p
        next r)
    (h : x.result = .ok out) : ∃ r, (next r).result = .ok out ∧ x.unbound = (next r).unbound := by
  subst hx
  cases body with
  | none =>
    obtain ⟨r, -, hnext⟩ := (IsSilent.pure none).exists_of_bind_eq_ok h
    exact ⟨r, hnext⟩
  | some p =>
    obtain ⟨r, -, hnext⟩ := (isSilent_requestBodyOf m route p).exists_of_bind_eq_ok h
    exact ⟨r, hnext⟩

/-- A method that is extracted reports exactly what is reported on its paths. -/
theorem unbound_operationsOfMethod {handler : TypeDescriptor} {base tag : String}
    {m : MethodDescriptor} {route : Route} {operations : List Operation}
    (h : (operationsOfMethod scope hooks handler base tag m route).result = .ok operations) :
    ∃ body parameters, (bodyPosition hooks m).result = .ok body ∧
      (parametersOf scope hooks m body).result = .ok parameters ∧
      (operationsOfMethod scope hooks handler base tag m route).unbound =
        route.methodPaths.flatMap fun path => reportsOn handler m parameters
          (preparePath [base, path]) (pathVariables (preparePath [base, path])) := by
  rw [operationsOfMethod] at h ⊢
  by_cases hverbs : route.verbs.isEmpty = true
  · rw [if_pos hverbs] at h
    cases h
  · rw [if_neg hverbs] at h ⊢
    obtain ⟨body, hbody, h, hu⟩ := (isSilent_bodyPosition m).exists_of_bind_eq_ok h
    obtain ⟨parameters, hparameters, h, hu'⟩ :=
      (isSilent_parametersFrom m body _).exists_of_bind_eq_ok h
    refine ⟨body, parameters, hbody, hparameters, (hu.trans hu').trans ?_⟩
    obtain ⟨requestBody, h, hu⟩ := exists_of_bind_requestBody_eq_ok rfl h
    obtain ⟨responses, -, -, hu'⟩ := (isSilent_responsesOf m route).exists_of_bind_eq_ok h
    refine (hu.trans hu').trans ?_
    rw [unbound_operationsOnPaths]

end ApiContract
