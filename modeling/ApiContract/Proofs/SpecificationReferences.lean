import Mathlib.Data.List.Perm.Basic
import ApiContract.OpenApi.Specification
import ApiContract.Proofs.Origins
/-!
# References in a specification

A document is checked for dangling references before it becomes a specification, and those who read
the specification follow its references. Both see the same references: each one of the document is
stated in the specification, and the specification states no others.

* `SchemaObject.referenceTexts`, `Specification.referenceTexts` : the references that are stated,
  under `$ref` and in the mappings of discriminators.
* `Specification.danglingTexts` : those of them that name no component.
* `referenceTexts_toObject` : the object of a schema states its references, in their order.
* `operationObjects_perm` : each operation of a path has its place.
* `dangling_references_agree` : what is reported of a document is what dangles in its
  specification.
-/

namespace ApiContract

/-! ## What is stated -/

namespace SchemaObject

/-- The references in the mapping of a discriminator. -/
def mappedTexts (d : Option DiscriminatorObject) : List String :=
  match d with
  | some d => d.mapping.values
  | none => []

mutual

/-- The references of a schema object: its own, then those of its parts, and those in the mapping of
its discriminator. -/
def referenceTexts : SchemaObject → List String
  | ⟨_, _, _, properties, _, additionalProperties, items, _, ref, allOf, oneOf, discriminator, _, _,
      _, _, _, _, _, _, _, _, _⟩ =>
    ref.toList ++ referenceTextsOfAll allOf ++ referenceTextsOfAll oneOf ++
      referenceTextsOfOption items ++ referenceTextsOfProperties properties ++
      referenceTextsOfOption additionalProperties ++ mappedTexts discriminator

/-- `referenceTexts` of each schema object of a list. -/
def referenceTextsOfAll : List SchemaObject → List String
  | [] => []
  | s :: rest => referenceTexts s ++ referenceTextsOfAll rest

/-- `referenceTexts` of each property. -/
def referenceTextsOfProperties : List (String × SchemaObject) → List String
  | [] => []
  | (_, s) :: rest => referenceTexts s ++ referenceTextsOfProperties rest

/-- `referenceTexts` of a schema object that may be absent. -/
def referenceTextsOfOption : Option SchemaObject → List String
  | none => []
  | some s => referenceTexts s

end

end SchemaObject

/-- The references in the content of a request or a response. -/
def contentTexts (content : Assoc String MediaTypeObject) : List String :=
  content.values.flatMap fun m => SchemaObject.referenceTextsOfOption m.schema

/-- The references of a parameter. -/
def ParameterObject.referenceTexts (p : ParameterObject) : List String :=
  SchemaObject.referenceTextsOfOption p.schema

/-- The references of a response: those of its content, then those of its headers. -/
def ResponseObject.referenceTexts (r : ResponseObject) : List String :=
  contentTexts r.content ++
    r.headers.values.flatMap fun h => SchemaObject.referenceTextsOfOption h.schema

/-- The references of an operation. -/
def OperationObject.referenceTexts (o : OperationObject) : List String :=
  o.parameters.flatMap (·.referenceTexts) ++
    o.requestBody.toList.flatMap (fun b => contentTexts b.content) ++
    o.responses.values.flatMap (·.referenceTexts)

/-- The operations of a path, in the order of their places. -/
def PathItem.operationObjects (item : PathItem) : List OperationObject :=
  Verb.all.filterMap item.operation?

namespace Specification

/-- The components of a specification. -/
def schemas (s : Specification) : Assoc String SchemaObject :=
  (s.components.map (·.schemas)).getD []

/-- All references of a specification. -/
def referenceTexts (s : Specification) : List String :=
  s.schemas.values.flatMap (·.referenceTexts) ++
    (s.paths.values.flatMap PathItem.operationObjects).flatMap (·.referenceTexts)

/-- Whether a reference names a component of a specification. -/
def resolves (s : Specification) (text : String) : Bool :=
  s.schemas.keys.any fun name => componentRef name == text

/-- The references of a specification that name no component. -/
def danglingTexts (s : Specification) : List String :=
  s.referenceTexts.filter fun text => !s.resolves text

end Specification

/-! ## Schemas -/

theorem componentRef_injective : Function.Injective componentRef := by
  intro name name' h
  exact (String.append_right_inj "#/components/schemas/").1 h

namespace Schema

/-- The attributes that every schema may have hold no references. -/
theorem referenceTexts_annotate (s : SchemaObject) (description : Option String)
    (deprecated : Bool) (access : Option Access) :
    (annotate s description deprecated access).referenceTexts = s.referenceTexts := by
  cases s
  rfl

theorem referenceTexts_referenceObject (target : String) (description : Option String)
    (deprecated : Bool) (access : Option Access) :
    (referenceObject target description deprecated access).referenceTexts =
      [componentRef target] := by
  unfold referenceObject
  split
  · rfl
  · rw [referenceTexts_annotate]
    rfl

theorem mappedTexts_toObject (d : Option Discriminator) :
    SchemaObject.mappedTexts (d.map Discriminator.toObject) =
      (mappedComponents d).map componentRef := by
  cases d with
  | none => rfl
  | some d =>
    simp [SchemaObject.mappedTexts, mappedComponents, Discriminator.toObject, Assoc.values,
      Function.comp_def]

mutual

/-- The object of a schema states the references of the schema, in their order. -/
theorem referenceTexts_toObject :
    (s : Schema) → s.toObject.referenceTexts = s.references.map componentRef
  | ⟨.primitive _, _, _, _⟩ | ⟨.string _, _, _, _⟩ | ⟨.number _, _, _, _⟩ | ⟨.boolean, _, _, _⟩
  | ⟨.enumeration _, _, _, _⟩ => by
    rw [toObject, referenceTexts_annotate, references]
    rfl
  | ⟨.reference target, _, _, _⟩ => by
    rw [toObject, referenceTexts_referenceObject, references]
    rfl
  | ⟨.array ⟨items, _, _⟩, _, _, _⟩ => by
    rw [toObject, referenceTexts_annotate, references, ← referenceTexts_toObject items]
    simp [SchemaObject.referenceTexts, SchemaObject.referenceTextsOfAll,
      SchemaObject.referenceTextsOfProperties, SchemaObject.referenceTextsOfOption,
      SchemaObject.mappedTexts]
  | ⟨.composed ⟨allOf, oneOf, discriminator, _⟩, _, _, _⟩ => by
    rw [toObject, referenceTexts_annotate, references, List.map_append, List.map_append,
      ← referenceTexts_toObjects allOf, ← referenceTexts_toObjects oneOf, ← mappedTexts_toObject]
    simp [SchemaObject.referenceTexts, SchemaObject.referenceTextsOfProperties,
      SchemaObject.referenceTextsOfOption]
  | ⟨.object ⟨properties, _, discriminator, additional⟩, _, _, _⟩ => by
    rw [toObject, referenceTexts_annotate, references, List.map_append, List.map_append,
      ← referenceTexts_toProperties properties, ← referenceTexts_toObject? additional,
      ← mappedTexts_toObject]
    simp [SchemaObject.referenceTexts, SchemaObject.referenceTextsOfAll,
      SchemaObject.referenceTextsOfOption]

theorem referenceTexts_toObjects :
    (schemas : List Schema) → SchemaObject.referenceTextsOfAll (toObjects schemas) =
      (referencesOfAll schemas).map componentRef
  | [] => rfl
  | s :: rest => by
    rw [toObjects, SchemaObject.referenceTextsOfAll, referencesOfAll, List.map_append,
      referenceTexts_toObject s, referenceTexts_toObjects rest]

theorem referenceTexts_toProperties :
    (properties : List (String × Schema)) →
      SchemaObject.referenceTextsOfProperties (toProperties properties) =
        (referencesOfProperties properties).map componentRef
  | [] => rfl
  | (name, s) :: rest => by
    rw [toProperties, SchemaObject.referenceTextsOfProperties, referencesOfProperties,
      List.map_append, referenceTexts_toObject s, referenceTexts_toProperties rest]

theorem referenceTexts_toObject? :
    (s : Option Schema) → SchemaObject.referenceTextsOfOption (toObject? s) =
      (referencesOfOption s).map componentRef
  | none => rfl
  | some s => by
    rw [toObject?, SchemaObject.referenceTextsOfOption, referencesOfOption,
      referenceTexts_toObject s]

end

end Schema

/-! ## Operations -/

/-- Where there is a schema, its content type is known. -/
def Response.IsTyped (r : Response) : Prop := r.schema.isSome = true → r.contentType.isSome = true

/-- The references of some schemas, as they are stated. -/
def statedReferences (schemas : List Schema) : List String :=
  (schemas.flatMap (·.references)).map componentRef

theorem statedReferences_append (schemas others : List Schema) :
    statedReferences (schemas ++ others) = statedReferences schemas ++ statedReferences others := by
  simp [statedReferences]

theorem statedReferences_flatMap {α : Type} (xs : List α) (f : α → List Schema) :
    statedReferences (xs.flatMap f) = xs.flatMap fun x => statedReferences (f x) := by
  simp [statedReferences, List.flatMap_assoc, List.map_flatMap]

theorem statedReferences_map {α : Type} (xs : List α) (f : α → Schema) :
    statedReferences (xs.map f) = xs.flatMap fun x => (f x).toObject.referenceTexts := by
  simp [statedReferences, List.flatMap_map, List.map_flatMap, Schema.referenceTexts_toObject]

theorem referenceTexts_parameter (p : Parameter) :
    p.toObject.referenceTexts = p.schema.toObject.referenceTexts := by
  rfl

theorem contentTexts_contentOf (contentType : String) (s : Schema) :
    contentTexts (contentOf contentType s) = s.toObject.referenceTexts := by
  simp [contentTexts, contentOf, SchemaObject.referenceTextsOfOption]

theorem contentTexts_content {r : Response} (h : r.IsTyped) :
    contentTexts r.content = statedReferences r.schema.toList := by
  unfold Response.content
  cases hs : r.schema with
  | none =>
    cases r.contentType with
    | none => rfl
    | some contentType => rfl
  | some s =>
    obtain ⟨contentType, hc⟩ := Option.isSome_iff_exists.1 (h (by rw [hs]; rfl))
    rw [hc]
    simp [contentTexts_contentOf, statedReferences, Schema.referenceTexts_toObject]

theorem referenceTexts_response {r : Response} (h : r.IsTyped) :
    r.toObject.referenceTexts = statedReferences (Operation.responseSchemas r) := by
  have hheaders : r.toObject.headers.values = r.headers.values.map Header.toObject := by
    simp [Response.toObject, Assoc.values, Function.comp_def]
  have hcontent : r.toObject.content = r.content := rfl
  rw [ResponseObject.referenceTexts, Operation.responseSchemas, statedReferences_append, hcontent,
    contentTexts_content h, hheaders, statedReferences_map, List.flatMap_map]
  rfl

/-- An operation object states the references of its operation. -/
theorem referenceTexts_operation {o : Operation} (h : ∀ r ∈ o.responses.values, r.IsTyped) :
    o.toObject.referenceTexts = statedReferences o.schemas := by
  have hparameters : o.toObject.parameters.flatMap (·.referenceTexts) =
      statedReferences (o.parameters.map (·.schema)) := by
    rw [statedReferences_map]
    simp only [Operation.toObject, List.flatMap_map, referenceTexts_parameter]
  have hbody : (o.toObject.requestBody.toList.flatMap fun b => contentTexts b.content) =
      statedReferences (o.requestBody.map (·.schema)).toList := by
    cases hb : o.requestBody with
    | none => simp [Operation.toObject, hb, statedReferences]
    | some b =>
      simp [Operation.toObject, RequestBody.toObject, hb, contentTexts_contentOf, statedReferences,
        Schema.referenceTexts_toObject]
  have hresponses : o.toObject.responses.values.flatMap (·.referenceTexts) =
      statedReferences (o.responses.values.flatMap Operation.responseSchemas) := by
    have hvalues : o.toObject.responses.values = o.responses.values.map Response.toObject := by
      simp [Operation.toObject, Assoc.values, Function.comp_def]
    rw [hvalues, List.flatMap_map, statedReferences_flatMap]
    refine List.flatMap_congr ?_
    intro r hr
    exact referenceTexts_response (h r hr)
  rw [OperationObject.referenceTexts, Operation.schemas, statedReferences_append,
    statedReferences_append, hparameters, hbody, hresponses]

/-! ## Paths -/

theorem operation?_foldl_setOperation {operations : Assoc Verb OperationObject}
    (h : operations.keys.Nodup) (item : PathItem) (verb : Verb) :
    (operations.foldl (fun item (v, o) => item.setOperation v o) item).operation? verb =
      (operations.get? verb).or (item.operation? verb) := by
  induction operations generalizing item with
  | nil => rfl
  | cons p rest ih =>
    obtain ⟨v, o⟩ := p
    obtain ⟨hv, hrest⟩ := List.nodup_cons.1 h
    rw [List.foldl_cons, ih hrest, PathItem.operation?_setOperation, Assoc.get?]
    by_cases hvw : v = verb
    · -- no later operation takes the place
      have hnone : Assoc.get? rest verb = none := Assoc.get?_eq_none_iff.2 (hvw ▸ hv)
      simp [hvw, hnone]
    · simp [hvw]

/-- The operation in a place is that of the verb. -/
theorem operation?_ofOperations {operations : Assoc Verb OperationObject}
    (h : operations.keys.Nodup) (verb : Verb) :
    (PathItem.ofOperations operations).operation? verb = operations.get? verb := by
  have hempty : ({} : PathItem).operation? verb = none := by cases verb <;> rfl
  rw [PathItem.ofOperations, operation?_foldl_setOperation h, hempty, Option.or_none]

theorem nodup_verbs : Verb.all.Nodup := by decide

/-- If no verb repeats, each operation of a path has its place. -/
theorem operationObjects_perm {operations : Assoc Verb OperationObject}
    (h : operations.keys.Nodup) :
    (PathItem.ofOperations operations).operationObjects.Perm operations.values := by
  have hplaced : (PathItem.ofOperations operations).operationObjects =
      (Verb.all.filterMap fun v => (operations.get? v).map fun o => (v, o)).map Prod.snd := by
    unfold PathItem.operationObjects
    rw [List.map_filterMap]
    refine List.filterMap_congr ?_
    intro v _
    rw [operation?_ofOperations h]
    cases operations.get? v with
    | none => rfl
    | some o => rfl
  rw [hplaced]
  refine List.Perm.map _ ((List.perm_ext_iff_of_nodup ?_ (List.Nodup.of_map _ h)).2 ?_)
  · refine nodup_verbs.filterMap ?_
    intro v w p hp hq
    simp only [Option.mem_def, Option.map_eq_some_iff] at hp hq
    obtain ⟨o, -, rfl⟩ := hp
    obtain ⟨o', -, heq⟩ := hq
    exact (congrArg Prod.fst heq).symm
  · rintro ⟨v, o⟩
    simp only [List.mem_filterMap, Option.map_eq_some_iff, Prod.mk.injEq]
    constructor
    · rintro ⟨w, -, o', hget, rfl, rfl⟩
      exact Assoc.mem_of_get? hget
    · intro hmem
      exact ⟨v, Verb.mem_all v, o, Assoc.get?_of_mem h hmem, rfl, rfl⟩

/-! ## Documents -/

namespace Document

/-- No path has two operations for one verb. -/
def HasDistinctVerbs (d : Document) : Prop :=
  ∀ operations ∈ d.paths.values, operations.keys.Nodup

/-- All schemas of a document. -/
def schemas (d : Document) : List Schema :=
  d.components.values ++ d.operations.flatMap Operation.schemas

/-- What is reported are the references that are no components. -/
theorem map_target_danglingReferences (d : Document) :
    d.danglingReferences.map (·.target) =
      (d.schemas.flatMap (·.references)).filter fun target => !d.components.contains target := by
  have hin : ∀ location s, (d.danglingIn location s).map (·.target) =
      s.references.filter fun target => !d.components.contains target := by
    intro location s
    simp [danglingIn, Function.comp_def]
  simp only [danglingReferences, schemas, List.map_append, List.map_flatMap, hin,
    List.flatMap_append, List.filter_append, List.filter_flatMap, List.flatMap_assoc]
  congr 1
  simp [Assoc.values, List.flatMap_map]

end Document

variable {d : Document} {servers : List Server}

theorem schemas_ofDocument (d : Document) (servers : List Server) :
    (Specification.ofDocument d servers).schemas = d.components.mapValues Schema.toObject := by
  unfold Specification.schemas Specification.ofDocument
  cases d.components with
  | nil => rfl
  | cons p rest => rfl

/-- A stated reference resolves exactly if the document has the component; a specification without
components resolves none. -/
theorem resolves_componentRef (d : Document) (servers : List Server) (name : String) :
    (Specification.ofDocument d servers).resolves (componentRef name) =
      d.components.contains name := by
  rw [Bool.eq_iff_iff, Assoc.contains_iff, Specification.resolves, schemas_ofDocument,
    Assoc.keys_mapValues]
  simp [componentRef_injective.eq_iff]

/-- A specification states the references of its document. -/
theorem referenceTexts_ofDocument_perm (hverbs : d.HasDistinctVerbs)
    (htyped : ∀ o ∈ d.operations, ∀ r ∈ o.responses.values, r.IsTyped) :
    (Specification.ofDocument d servers).referenceTexts.Perm (statedReferences d.schemas) := by
  have hcomponents :
      (Specification.ofDocument d servers).schemas.values.flatMap (·.referenceTexts) =
        statedReferences d.components.values := by
    have hstated := statedReferences_map d.components.values id
    rw [List.map_id] at hstated
    rw [schemas_ofDocument, Assoc.values_mapValues, List.flatMap_map, hstated]
    rfl
  have hoperations :
      ((Specification.ofDocument d servers).paths.values.flatMap
        PathItem.operationObjects).Perm (d.operations.map Operation.toObject) := by
    have hpaths : (Specification.ofDocument d servers).paths.values =
        d.paths.values.map pathItemOf := by
      simp [Specification.ofDocument, Assoc.values, Function.comp_def]
    rw [hpaths, List.flatMap_map, Document.operations, List.map_flatMap]
    refine List.Perm.flatMap_left _ ?_
    intro operations hmem
    have hobjects : operations.values.map Operation.toObject =
        (operations.mapValues Operation.toObject).values := (Assoc.values_mapValues ..).symm
    have hdistinct : (operations.mapValues Operation.toObject).keys.Nodup := by
      rw [Assoc.keys_mapValues]
      exact hverbs operations hmem
    rw [hobjects]
    exact operationObjects_perm hdistinct
  have hstated : (d.operations.map Operation.toObject).flatMap (·.referenceTexts) =
      statedReferences (d.operations.flatMap Operation.schemas) := by
    rw [List.flatMap_map, statedReferences_flatMap]
    refine List.flatMap_congr ?_
    intro o ho
    exact referenceTexts_operation (htyped o ho)
  unfold Specification.referenceTexts Document.schemas
  rw [statedReferences_append, hcomponents, ← hstated]
  exact (hoperations.flatMap_right _).append_left _

/-- Schemas are stated with all their references, in order. What is reported of a document whose
contents are typed is what dangles in its specification, each as often as it occurs. -/
theorem dangling_references_agree (servers : List Server) :
    (∀ s : Schema, s.toObject.referenceTexts = s.references.map componentRef) ∧
    ∀ d : Document, d.HasDistinctVerbs →
      (∀ o ∈ d.operations, ∀ r ∈ o.responses.values, r.IsTyped) →
      (d.danglingReferences.map fun r => componentRef r.target).Perm
        (Specification.ofDocument d servers).danglingTexts := by
  refine ⟨Schema.referenceTexts_toObject, ?_⟩
  intro d hverbs htyped
  have hreported : (d.danglingReferences.map fun r => componentRef r.target) =
      (statedReferences d.schemas).filter
        fun text => !(Specification.ofDocument d servers).resolves text := by
    have htargets := congrArg (List.map componentRef) d.map_target_danglingReferences
    rw [List.map_map] at htargets
    rw [statedReferences, List.filter_map]
    simp only [Function.comp_def, resolves_componentRef]
    exact htargets
  rw [hreported, Specification.danglingTexts]
  exact ((referenceTexts_ofDocument_perm hverbs htyped).symm).filter _

/-- A document with one operation, which answers with a truck and sends a depot along in a header. -/
def haulageDocument (components : Assoc String Schema) : Document where
  info := { title := "Haulage", version := "1" }
  components
  paths := [("/truck", [(.get, {
    verb := .get
    path := "/truck"
    id := "truckUsingGET"
    tag := "haulage"
    responses := [(200, {
      description := "OK"
      contentType := some "application/json"
      schema := some ((Schema.reference "Truck").describe "The next truck")
      headers := [("X-Depot", { schema := .array (.reference "Depot") })] })] })])]

theorem dangling_references_agree_haulage :
    (haulageDocument []).HasDistinctVerbs ∧
    (∀ o ∈ (haulageDocument []).operations, ∀ r ∈ o.responses.values, r.IsTyped) ∧
    (Specification.ofDocument (haulageDocument []) []).components.isNone = true ∧
    (Specification.ofDocument (haulageDocument []) []).danglingTexts.Perm
      ["#/components/schemas/Truck", "#/components/schemas/Depot"] ∧
    (Specification.ofDocument (haulageDocument [("Truck", .genericObject)]) []).danglingTexts.Perm
      ["#/components/schemas/Depot"] := by
  have hverbs : ∀ components, (haulageDocument components).HasDistinctVerbs := by
    intro components operations hmem
    obtain rfl := List.mem_singleton.1 hmem
    exact List.nodup_singleton Verb.get
  have htyped : ∀ components, ∀ o ∈ (haulageDocument components).operations,
      ∀ r ∈ o.responses.values, r.IsTyped := by
    intro components o ho r hr
    obtain rfl := List.mem_singleton.1 ho
    obtain rfl := List.mem_singleton.1 hr
    exact fun _ => rfl
  have hagree := fun components =>
    ((dangling_references_agree []).2 (haulageDocument components) (hverbs components)
      (htyped components)).symm
  exact ⟨hverbs [], htyped [], rfl, hagree [], hagree [("Truck", .genericObject)]⟩

end ApiContract
