import ApiContract.Schema
import ApiContract.Verb
/-!
# Documents

The result of a generation, before it takes the form of a specification: the components, by name,
and the operations, by path and verb.

* `Document.operation?` : the operation at a path and a verb.
* `Document.danglingReferences` : references to components that do not exist.
-/

namespace ApiContract

/-- What a document says about itself. -/
structure Info where
  title : String
  description : Option String := none
  version : String
deriving DecidableEq, Repr, Inhabited

/-- Where a parameter of an operation stands in a request. -/
inductive ParameterLocation where
  | path
  | query
  | header
deriving DecidableEq, Repr, Inhabited

/-- The name of a location. -/
def ParameterLocation.name : ParameterLocation → String
  | .path => "path"
  | .query => "query"
  | .header => "header"

/-- A parameter of an operation. -/
structure Parameter where
  name : String
  location : ParameterLocation
  required : Bool
  schema : Schema
  description : Option String := none
  deprecated : Bool := false

/-- The body of a request. -/
structure RequestBody where
  contentType : String
  schema : Schema
  required : Bool
  description : Option String := none

/-- A header of a response. -/
structure Header where
  description : Option String := none
  schema : Schema

/-- A response of an operation. -/
structure Response where
  description : String
  contentType : Option String := none
  schema : Option Schema := none
  headers : Assoc String Header := []

/-- A verb on a path, and what it takes and gives. -/
structure Operation where
  verb : Verb
  path : String
  id : String
  tag : String
  summary : Option String := none
  description : Option String := none
  deprecated : Bool := false
  parameters : List Parameter := []
  requestBody : Option RequestBody := none
  responses : Assoc UInt16 Response := []

/-- The components by name, and the operations by path and verb, both in increasing order. -/
structure Document where
  info : Info
  components : Assoc String Schema := []
  paths : Assoc String (Assoc Verb Operation) := []

/-- A reference to a component that does not exist, and where it stands. -/
structure DanglingReference where
  location : String
  target : String
deriving DecidableEq, Repr

namespace Operation

/-- The schemas of a response: that of its content and those of its headers. -/
def responseSchemas (r : Response) : List Schema :=
  r.schema.toList ++ r.headers.values.map (·.schema)

/-- All schemas of an operation: those of its parameters, its request body and its responses. -/
def schemas (o : Operation) : List Schema :=
  o.parameters.map (·.schema) ++ (o.requestBody.map (·.schema)).toList ++
    o.responses.values.flatMap responseSchemas

/-- The verb and the path of an operation. -/
def place (o : Operation) : String := o.verb.name ++ " " ++ o.path

end Operation

namespace Document

/-- The operation at a path and a verb. -/
def operation? (d : Document) (path : String) (verb : Verb) : Option Operation :=
  (d.paths.get? path).bind fun operations => operations.get? verb

/-- All operations, by path and then by verb. -/
def operations (d : Document) : List Operation := d.paths.values.flatMap Assoc.values

/-- Stores an operation under its path and its verb. -/
def insertOperation (d : Document) (o : Operation) : Document :=
  let known := (d.paths.get? o.path).getD []
  { d with paths := d.paths.insertSorted o.path (known.insertSorted o.verb o) }

/-- The references of a schema to components that do not exist. -/
def danglingIn (d : Document) (location : String) (s : Schema) : List DanglingReference :=
  (s.references.filter fun target => !d.components.contains target).map fun target =>
    ⟨location, target⟩

/-- All references to components that do not exist, in document order. -/
def danglingReferences (d : Document) : List DanglingReference :=
  (d.components.flatMap fun (name, s) => d.danglingIn ("components." ++ name) s) ++
    d.operations.flatMap fun o => o.schemas.flatMap (d.danglingIn o.place)

end Document

end ApiContract
