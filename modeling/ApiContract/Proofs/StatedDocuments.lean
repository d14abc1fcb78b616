import Mathlib.Data.List.Forall2
import Mathlib.Data.Option.Basic
import ApiContract.Proofs.OperationPlaces
import ApiContract.Proofs.SpecificationReferences
/-!
# Documents and their specifications

A specification keeps what its document says of every operation, under the path and the verb under
which the document has it. The tables of a document become records with places and tables with texts
as keys, and an entry could be lost where two of them meet: two verbs in one place, or two status
codes with one text. None do. The schema of a response can be left out, if the response has no
content type; in a generated document none is.

* `OperationObject.States` : an operation object keeps what an operation says.
* `Document.IsTabled` : the tables of a document have distinct keys, in order.
* `statusText_injective`, `states_toObject` : no status code is merged with another.
* `mem_sortedNames`, `pairwise_sortedNames` : tags.
* `operation?_ofDocument`, `states_ofDocument` : every operation in its place.
* `isTabled_of_generateIn`, `responses_of_operation` : generated documents.
* `documents_stated` : the specification of a document is its image.
-/

namespace ApiContract

/-! ## What an object keeps -/

/-- A parameter object has the name, the location and the schema of a parameter, and is required as
the parameter is. -/
structure ParameterObject.States (x : ParameterObject) (p : Parameter) : Prop where
  name : x.name = p.name
  location : x.location = match p.location with
    | .path => "path"
    | .query => "query"
    | .header => "header"
  required : x.required = some p.required
  schema : x.schema = some p.schema.toObject

/-- A request body object has one content: that of the body, under its content type. -/
structure RequestBodyObject.States (x : RequestBodyObject) (b : RequestBody) : Prop where
  keys : x.content.keys = [b.contentType]
  schemas : x.content.values.map (·.schema) = [some b.schema.toObject]

/-- A response object has content exactly if both content type and schema are known. -/
structure ResponseObject.States (x : ResponseObject) (r : Response) : Prop where
  content : x.content ≠ [] ↔ r.contentType.isSome = true ∧ r.schema.isSome = true

/-- An operation object has the identifier, the parameters and the request body of an operation, and
a response for each of its status codes. -/
structure OperationObject.States (x : OperationObject) (o : Operation) : Prop where
  operationId : x.operationId = some o.id
  parameters : List.Forall₂ ParameterObject.States x.parameters o.parameters
  requestBody : Option.Rel RequestBodyObject.States x.requestBody o.requestBody
  codes : x.responses.keys = o.responses.keys.map fun code => toString code.toNat
  distinct : x.responses.keys.Nodup
  responses : List.Forall₂ ResponseObject.States x.responses.values o.responses.values

/-- The operation at a path and a verb. -/
def Specification.operation? (s : Specification) (path : String) (verb : Verb) :
    Option OperationObject :=
  (s.paths.get? path).bind fun item => item.operation? verb

/-- A specification has the paths of a document and the names of its components, an operation
exactly where the document has one, and all tags of operations in order. -/
structure Specification.States (s : Specification) (d : Document) : Prop where
  paths : s.paths.keys = d.paths.keys
  operations : ∀ path verb,
    Option.Rel OperationObject.States (s.operation? path verb) (d.operation? path verb)
  increasing_tags : (s.tags.map (·.name)).Pairwise (· < ·)
  mem_tags : ∀ tag, tag ∈ s.tags.map (·.name) ↔ ∃ o ∈ d.operations, o.tag = tag
  no_components : s.components = none ↔ d.components = []
  components : ∀ c ∈ s.components, c.schemas.keys = d.components.keys

/-- The tables of a document: components, paths and verbs increase, and no operation has two
responses for one status code. -/
structure Document.IsTabled (d : Document) : Prop where
  components : d.components.IsIncreasing
  paths : d.paths.IsIncreasing
  verbs : ∀ operations ∈ d.paths.values, operations.IsIncreasing
  codes : ∀ o ∈ d.operations, o.responses.keys.Nodup

/-! ## Operations -/

theorem statusText_injective : Function.Injective statusText := by
  intro code code' h
  have hnat : code.toNat = code'.toNat := toString_injective h
  exact UInt16.toNat_inj.1 hnat

theorem ParameterLocation.name_eq (location : ParameterLocation) :
    location.name = match location with
      | .path => "path"
      | .query => "query"
      | .header => "header" := by
  cases location <;> rfl

theorem content_ne_nil_iff (r : Response) :
    r.content ≠ [] ↔ r.contentType.isSome = true ∧ r.schema.isSome = true := by
  unfold Response.content
  cases r.contentType with
  | none => simp
  | some contentType =>
    cases r.schema with
    | none => simp
    | some s => simp [contentOf]

/-- A schema whose content type is known is stated. -/
theorem mem_content {r : Response} {s : Schema} (hs : r.schema = some s)
    (hc : r.contentType.isSome = true) :
    some s.toObject ∈ r.toObject.content.values.map (·.schema) := by
  obtain ⟨contentType, hc⟩ := Option.isSome_iff_exists.1 hc
  simp [Response.toObject, Response.content, hs, hc, contentOf]

theorem keys_responses_toObject (o : Operation) :
    o.toObject.responses.keys = o.responses.keys.map statusText := by
  simp [Operation.toObject, Assoc.keys, Function.comp_def]

/-- An operation whose status codes differ is stated with all its responses. -/
theorem states_toObject {o : Operation} (h : o.responses.keys.Nodup) :
    o.toObject.States o where
  operationId := rfl
  parameters := by
    simp only [Operation.toObject, List.forall₂_map_left_iff]
    exact List.forall₂_same.2 fun p _ => ⟨rfl, p.location.name_eq, rfl, rfl⟩
  requestBody := by
    unfold Operation.toObject
    cases o.requestBody with
    | none => exact .none
    | some b => exact .some ⟨rfl, rfl⟩
  codes := keys_responses_toObject o
  distinct := by
    rw [keys_responses_toObject]
    exact h.map statusText_injective
  responses := by
    have hvalues : o.toObject.responses.values = o.responses.values.map Response.toObject := by
      simp [Operation.toObject, Assoc.values, Function.comp_def]
    rw [hvalues, List.forall₂_map_left_iff]
    exact List.forall₂_same.2 fun r _ => ⟨content_ne_nil_iff r⟩

/-! ## Tags -/

theorem mem_insertName {name name' : String} {names : List String} :
    name' ∈ insertName name names ↔ name' = name ∨ name' ∈ names := by
  induction names with
  | nil => simp [insertName]
  | cons other rest ih =>
    rw [insertName]
    split
    · next heq => simp [heq]
    · split
      · simp
      · rw [List.mem_cons, ih, List.mem_cons]
        tauto

theorem pairwise_insertName (name : String) {names : List String} (h : names.Pairwise (· < ·)) :
    (insertName name names).Pairwise (· < ·) := by
  induction names with
  | nil => exact List.pairwise_singleton _ _
  | cons other rest ih =>
    obtain ⟨hother, hrest⟩ := List.pairwise_cons.1 h
    rw [insertName]
    split
    · exact h
    · next hne =>
      split
      · next hlt =>
        refine List.pairwise_cons.2 ⟨fun name' hname' => ?_, h⟩
        rcases List.mem_cons.1 hname' with rfl | hname'
        · exact hlt
        · exact String.lt_trans hlt (hother name' hname')
      · next hnlt =>
        have hlt : other < name := (trichotomous_of (fun a b : String => a < b)
          other name).resolve_right (not_or.2 ⟨hne, hnlt⟩)
        refine List.pairwise_cons.2 ⟨fun name' hname' => ?_, ih hrest⟩
        rcases mem_insertName.1 hname' with rfl | hname'
        · exact hlt
        · exact hother name' hname'

theorem mem_foldl_insertName {name : String} {sorted names : List String} :
    name ∈ names.foldl (fun sorted name => insertName name sorted) sorted ↔
      name ∈ sorted ∨ name ∈ names := by
  induction names generalizing sorted with
  | nil => simp
  | cons other rest ih =>
    rw [List.foldl_cons, ih, mem_insertName, List.mem_cons]
    tauto

theorem mem_sortedNames {name : String} {names : List String} :
    name ∈ sortedNames names ↔ name ∈ names := by
  simp [sortedNames, mem_foldl_insertName]

theorem pairwise_sortedNames (names : List String) : (sortedNames names).Pairwise (· < ·) := by
  refine List.foldlRecOn names (fun sorted name => insertName name sorted) List.Pairwise.nil ?_
  intro sorted h name _
  exact pairwise_insertName name h

/-! ## Documents -/

namespace Document

variable {d : Document}

/-- The operation at a path and a verb is stated in their place. -/
theorem operation?_ofDocument (h : d.IsTabled) (servers : List Server) (path : String)
    (verb : Verb) :
    (Specification.ofDocument d servers).operation? path verb =
      (d.operation? path verb).map Operation.toObject := by
  have hpaths : (Specification.ofDocument d servers).paths = d.paths.mapValues pathItemOf := rfl
  rw [Specification.operation?, hpaths, Assoc.get?_mapValues, operation?]
  cases hget : d.paths.get? path with
  | none => rfl
  | some operations =>
    have hverbs := h.verbs operations (Assoc.mem_values_iff.2 ⟨path, Assoc.mem_of_get? hget⟩)
    have hdistinct : (operations.mapValues Operation.toObject).keys.Nodup := by
      rw [Assoc.keys_mapValues]
      exact hverbs.nodup
    exact (operation?_ofOperations hdistinct verb).trans (Assoc.get?_mapValues ..)

theorem mem_operations_of_operation? {path : String} {verb : Verb} {o : Operation}
    (h : d.operation? path verb = some o) : o ∈ d.operations := by
  obtain ⟨operations, hpath, hverb⟩ := Option.bind_eq_some_iff.1 h
  exact mem_operations.2
    ⟨path, operations, verb, Assoc.mem_of_get? hpath, Assoc.mem_of_get? hverb⟩

theorem states_operation? (h : d.IsTabled) (servers : List Server) (path : String) (verb : Verb) :
    Option.Rel OperationObject.States ((Specification.ofDocument d servers).operation? path verb)
      (d.operation? path verb) := by
  rw [operation?_ofDocument h]
  cases hget : d.operation? path verb with
  | none => exact .none
  | some o => exact .some (states_toObject (h.codes o (mem_operations_of_operation? hget)))

/-- The specification of a document is its image. -/
theorem states_ofDocument (h : d.IsTabled) (servers : List Server) :
    (Specification.ofDocument d servers).States d where
  paths := Assoc.keys_mapValues pathItemOf d.paths
  operations := states_operation? h servers
  increasing_tags := by
    simpa [Specification.ofDocument, Function.comp_def] using pairwise_sortedNames _
  mem_tags := by simp [Specification.ofDocument, Function.comp_def, mem_sortedNames]
  no_components := by
    unfold Specification.ofDocument
    cases d.components <;> simp
  components := by
    intro c hc
    have hkeys := congrArg Assoc.keys (schemas_ofDocument d servers)
    rw [Assoc.keys_mapValues, Specification.schemas, Option.mem_def.1 hc] at hkeys
    exact hkeys

end Document

/-! ## Generated documents -/

variable {config : Config} {hooks : Hooks} {graph : TypeGraph} {scope : Scope} {d : Document}

/-- The responses of a method have distinct status codes, and a content type exactly where there is
a schema. -/
theorem responseValues_spec {m : MethodDescriptor} {route : Route}
    (hm : IsSoundMethod hooks m route) :
    (responseValues scope m route).keys.Nodup ∧
      ∀ r ∈ (responseValues scope m route).values, r.contentType.isSome = r.schema.isSome := by
  have htyped : ∀ contentType description schema headers,
      (responseWith contentType description schema headers).contentType.isSome =
        (responseWith contentType description schema headers).schema.isSome := by
    intro contentType description schema headers
    cases schema <;> rfl
  rw [responseValues]
  cases hd : m.directives.responses? with
  | none => exact ⟨List.nodup_singleton _, by simp [htyped]⟩
  | some declared =>
    have hkeys : Assoc.keys (declared.map fun d =>
        (d.code, responseValue scope (route.produces.getD jsonContent) d)) =
          declared.map (·.code) := by
      simp [Assoc.keys, Function.comp_def]
    refine ⟨?_, ?_⟩
    · simp only [hkeys]
      exact hm.nodup_codes declared hd
    · simp [Assoc.values, responseValue, htyped]

theorem responses_of_operation (hz : hooks.interceptorCount = 0) {handlers : NamespaceMatcher}
    (hd : (generateIn config hooks graph scope handlers).result = .ok d) {o : Operation}
    (ho : o ∈ d.operations) :
    o.responses.keys.Nodup ∧
      ∀ r ∈ o.responses.values, r.contentType.isSome = r.schema.isSome := by
  obtain ⟨handler, -, m, -, route, hmethod, path, verb, id, rfl⟩ :=
    exists_methodTemplate_of_operation hz hd ho
  exact responseValues_spec hmethod

theorem isTabled_of_generateIn (hz : hooks.interceptorCount = 0) {handlers : NamespaceMatcher}
    (hd : (generateIn config hooks graph scope handlers).result = .ok d) : d.IsTabled := by
  obtain ⟨-, -, hfiled, -⟩ := operations_perm_of_generateIn hd
  refine ⟨isIncreasing_components_of_generateIn hd, hfiled.paths, fun operations hmem => ?_,
    fun o ho => (responses_of_operation hz hd ho).1⟩
  obtain ⟨path, hpath⟩ := Assoc.mem_values_iff.1 hmem
  exact hfiled.verbs path operations hpath

/-- The specification of a document is its image: nothing is lost, moved or merged, whatever paths,
verbs and status codes there are. In a document that is generated without interceptors a response
has a content type exactly if it has a schema, so its specification has the schemas of all
responses. -/
theorem documents_stated (servers : List Server) :
    (∀ d : Document, d.IsTabled → (Specification.ofDocument d servers).States d) ∧
    ∀ (config : Config) (hooks : Hooks) (graph : TypeGraph) (d : Document),
      hooks.interceptorCount = 0 → (generate config hooks graph).result = .ok d →
      d.IsTabled ∧
      (∀ o ∈ d.operations, ∀ r ∈ o.responses.values,
        r.contentType.isSome = r.schema.isSome) ∧
      ∀ path verb o, d.operation? path verb = some o →
        ∀ code r s, (code, r) ∈ o.responses → r.schema = some s →
          ∃ x y, (Specification.ofDocument d servers).operation? path verb = some x ∧
            (toString code.toNat, y) ∈ x.responses ∧
            some s.toObject ∈ y.content.values.map (·.schema) := by
  refine ⟨fun d h => Document.states_ofDocument h servers, ?_⟩
  intro config hooks graph d hz hd
  obtain ⟨bases, scope, handlers, -, -, hd⟩ := result_generate_eq_ok.1 hd
  have htabled := isTabled_of_generateIn hz hd
  have hresponses := fun o ho => (responses_of_operation hz hd (o := o) ho).2
  refine ⟨htabled, hresponses, ?_⟩
  intro path verb o ho code r s hr hs
  have hmem := Document.mem_operations_of_operation? ho
  have hc : r.contentType.isSome = true := by
    rw [hresponses o hmem r (Assoc.mem_values_iff.2 ⟨code, hr⟩), hs]
    rfl
  refine ⟨o.toObject, r.toObject, ?_, ?_, mem_content hs hc⟩
  · rw [Document.operation?_ofDocument htabled, ho]
    rfl
  · exact List.mem_map_of_mem hr

/-- A configuration of ferries. -/
def ferriesConfig : Config := { handlerNamespaces := ["port.web"] }

/-- A handler of ferries with two verbs on one path. One of them has parameters in all places, and
answers with a time of departure, or with nothing. -/
def ferriesGraph : TypeGraph where
  types := [{ name := "port.web.Ferries"
              directives := [.route (.base "/ferries/{pier}")]
              methods := [
                { name := "next"
                  parameters := [
                    { name := "pier", type := .text
                      directives := [.binding { location := .path }] },
                    { name := "day", type := .date
                      directives := [.binding { location := .query }] },
                    { name := "trip", type := .text
                      directives := [.binding { location := .header, name := some "X-Trip" }] }]
                  directives := [
                    .route { verbs := [.get] },
                    .responses [{ code := 200, body := some .dateTime }, { code := 404 }]] },
                { name := "cancel", directives := [.route { verbs := [.delete] }] }] }]
  nodup_names := by decide +kernel

/-- Each parameter keeps its name and its place, and each answer its status code. -/
theorem documents_stated_ferries :
    Hooks.none.interceptorCount = 0 ∧
    ∃ d, (generate ferriesConfig Hooks.none ferriesGraph).result = .ok d ∧
      d.IsTabled ∧ (Specification.ofDocument d []).States d ∧
      ∃ o r s, d.operation? "/ferries/{pier}" .get = some o ∧ (200, r) ∈ o.responses ∧
        r.schema = some s ∧
        ∃ x y, (Specification.ofDocument d []).operation? "/ferries/{pier}" .get = some x ∧
          x.parameters.map (fun q => (q.name, q.location)) =
            [("pier", "path"), ("day", "query"), ("X-Trip", "header")] ∧
          x.responses.keys = ["200", "404"] ∧ ("200", y) ∈ x.responses ∧
          some s.toObject ∈ y.content.values.map (·.schema) := by
  have hnext : ((generate ferriesConfig Hooks.none ferriesGraph).result.map fun d =>
      (d.operation? "/ferries/{pier}" .get).map fun o =>
        (o.parameters.map fun p => (p.name, p.location.name), o.responses.keys,
          ((o.responses.get? 200).bind (·.schema)).isSome)) =
      .ok (some
        ([("pier", "path"), ("day", "query"), ("X-Trip", "header")], [200, 404], true)) := by
    decide +kernel
  obtain ⟨d, hd, hnext⟩ := exceptMap_eq_ok.1 hnext
  obtain ⟨o, ho, hnext⟩ := Option.map_eq_some_iff.1 hnext
  simp only [Prod.mk.injEq] at hnext
  obtain ⟨hparameters, hcodes, hanswer⟩ := hnext
  obtain ⟨s, hanswer⟩ := Option.isSome_iff_exists.1 hanswer
  obtain ⟨r, hr, hs⟩ := Option.bind_eq_some_iff.1 hanswer
  obtain ⟨hstated, hgenerated⟩ := documents_stated []
  obtain ⟨htabled, -, hschemas⟩ := hgenerated ferriesConfig Hooks.none ferriesGraph d rfl hd
  have hmem := Assoc.mem_of_get? hr
  obtain ⟨x, y, hx, hy, hschema⟩ := hschemas "/ferries/{pier}" .get o ho 200 r s hmem hs
  have hoperation : x.States o := by
    have h := (hstated d htabled).operations "/ferries/{pier}" .get
    rw [hx, ho] at h
    cases h with
    | some h => exact h
  have hplaces : x.parameters.map (fun q => (q.name, q.location)) =
      o.parameters.map fun p => (p.name, p.location.name) := by
    rw [← List.forall₂_eq_eq_eq, List.forall₂_map_left_iff, List.forall₂_map_right_iff]
    exact hoperation.parameters.imp fun q p h =>
      Prod.ext h.name (h.location.trans p.location.name_eq.symm)
  refine ⟨rfl, d, hd, htabled, hstated d htabled, o, r, s, ho, hmem, hs, x, y, hx,
    hplaces.trans hparameters, ?_, hy, hschema⟩
  rw [hoperation.codes, hcodes]
  rfl

end ApiContract
