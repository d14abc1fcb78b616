import ApiContract.Config
import ApiContract.OpenApi.Schema
/-!
# Specifications

An OpenAPI 3.0 document. `Specification.ofDocument` states a generated document as one: each
operation in the place of its verb on its path, each response under its status code, the components
under their names, and all tags in order.

* `PathItem.operation?`, `PathItem.setOperation` : the place of a verb on a path.
-/

namespace ApiContract

/-- Content of one media type. -/
structure MediaTypeObject where
  schema : Option SchemaObject := none
deriving Repr, Inhabited

/-- A header of a response. -/
structure HeaderObject where
  description : Option String := none
  schema : Option SchemaObject := none
deriving Repr, Inhabited

/-- A response, with its content by media type. -/
structure ResponseObject where
  description : String
  headers : Assoc String HeaderObject := []
  content : Assoc String MediaTypeObject := []
deriving Repr, Inhabited

/-- The body of a request, with its content by media type. -/
structure RequestBodyObject where
  description : Option String := none
  content : Assoc String MediaTypeObject
  required : Option Bool := none
deriving Repr, Inhabited

/-- A parameter of an operation. -/
structure ParameterObject where
  name : String
  location : String
  description : Option String := none
  required : Option Bool := none
  deprecated : Option Bool := none
  schema : Option SchemaObject := none
deriving Repr, Inhabited

/-- An operation, with its responses by status code. -/
structure OperationObject where
  tags : List String := []
  summary : Option String := none
  description : Option String := none
  operationId : Option String := none
  parameters : List ParameterObject := []
  requestBody : Option RequestBodyObject := none
  responses : Assoc String ResponseObject := []
  deprecated : Option Bool := none
deriving Repr, Inhabited

/-- The operations of a path, with a place for each verb. -/
structure PathItem where
  get : Option OperationObject := none
  put : Option OperationObject := none
  post : Option OperationObject := none
  delete : Option OperationObject := none
  options : Option OperationObject := none
  head : Option OperationObject := none
  patch : Option OperationObject := none
  trace : Option OperationObject := none
deriving Repr, Inhabited

/-- The reusable parts of a specification, by name. -/
structure ComponentsObject where
  schemas : Assoc String SchemaObject := []
deriving Repr, Inhabited

/-- A tag under which operations are grouped. -/
structure TagObject where
  name : String
deriving DecidableEq, Repr, Inhabited

/-- An OpenAPI 3.0 document; paths and components are in increasing order of their keys. -/
structure Specification where
  openapi : String
  info : Info
  servers : List Server := []
  paths : Assoc String PathItem := []
  components : Option ComponentsObject := none
  tags : List TagObject := []
deriving Repr, Inhabited

namespace PathItem

/-- The operation of a verb. -/
def operation? (item : PathItem) : Verb → Option OperationObject
  | .get => item.get
  | .put => item.put
  | .post => item.post
  | .delete => item.delete
  | .options => item.options
  | .head => item.head
  | .patch => item.patch
  | .trace => item.trace

/-- Sets the operation of a verb. -/
def setOperation (item : PathItem) (verb : Verb) (o : OperationObject) : PathItem :=
  match verb with
  | .get => { item with get := some o }
  | .put => { item with put := some o }
  | .post => { item with post := some o }
  | .delete => { item with delete := some o }
  | .options => { item with options := some o }
  | .head => { item with head := some o }
  | .patch => { item with patch := some o }
  | .trace => { item with trace := some o }

/-- The operations of a path with a place for each. -/
def ofOperations (operations : List (Verb × OperationObject)) : PathItem :=
  operations.foldl (fun item (verb, o) => item.setOperation verb o) {}

theorem operation?_setOperation (item : PathItem) (v w : Verb) (o : OperationObject) :
    (item.setOperation v o).operation? w = if v = w then some o else item.operation? w := by
  cases v <;> cases w <;> rfl

end PathItem

/-- Content of one media type with a schema. -/
def contentOf (contentType : String) (s : Schema) : Assoc String MediaTypeObject :=
  [(contentType, { schema := some s.toObject })]

/-- A parameter as an object. -/
def Parameter.toObject (p : Parameter) : ParameterObject where
  name := p.name
  location := p.location.name
  description := p.description
  required := some p.required
  deprecated := markIf p.deprecated
  schema := some p.schema.toObject

/-- A request body as an object. -/
def RequestBody.toObject (b : RequestBody) : RequestBodyObject where
  description := b.description
  content := contentOf b.contentType b.schema
  required := some b.required

/-- A header as an object. -/
def Header.toObject (h : Header) : HeaderObject where
  description := h.description
  schema := some h.schema.toObject

/-- The content of a response: there is some where both content type and schema are known. -/
def Response.content (r : Response) : Assoc String MediaTypeObject :=
  match r.contentType, r.schema with
  | some contentType, some s => contentOf contentType s
  | _, _ => []

/-- A response as an object. -/
def Response.toObject (r : Response) : ResponseObject where
  description := r.description
  headers := r.headers.map fun (name, h) => (name, h.toObject)
  content := r.content

/-- The text of a status code. -/
def statusText (code : UInt16) : String := toString code.toNat

/-- An operation as an object. -/
def Operation.toObject (o : Operation) : OperationObject where
  tags := [o.tag]
  summary := o.summary
  description := o.description
  operationId := some o.id
  parameters := o.parameters.map Parameter.toObject
  requestBody := o.requestBody.map RequestBody.toObject
  responses := o.responses.map fun (code, r) => (statusText code, r.toObject)
  deprecated := markIf o.deprecated

/-- The operations of a path as an object. -/
def pathItemOf (operations : Assoc Verb Operation) : PathItem :=
  .ofOperations (operations.map fun (verb, o) => (verb, o.toObject))

/-- Adds a name to a list of names in increasing order, unless it is there. -/
def insertName (name : String) : List String → List String
  | [] => [name]
  | other :: rest =>
    if other = name then other :: rest
    else if name < other then name :: other :: rest
    else other :: insertName name rest

/-- Some names in increasing order, each once. -/
def sortedNames (names : List String) : List String :=
  names.foldl (fun sorted name => insertName name sorted) []

namespace Specification

/-- The version of the OpenAPI standard that specifications follow. -/
def version : String := "3.0.3"

/-- The specification of a document, with some servers. -/
def ofDocument (d : Document) (servers : List Server) : Specification where
  openapi := version
  info := d.info
  servers
  paths := d.paths.map fun (path, operations) => (path, pathItemOf operations)
  components :=
    if d.components.isEmpty then none
    else some ⟨d.components.map fun (name, s) => (name, s.toObject)⟩
  tags := (sortedNames (d.operations.map (·.tag))).map TagObject.mk

end Specification

end ApiContract
