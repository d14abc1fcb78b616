import ApiContract.Component.FieldSchema
import ApiContract.Component.ValueSchema
import ApiContract.Hooks
/-!
# Parameters and request bodies

Every parameter of a handler method goes to one place at most. One parameter may become the request
body: the one that is bound to the body, else the first file or container of files, whatever it is
bound to. The other parameters that are bound to the path, the query or a header become parameters
of the operation.

* `bodyPosition` : the place of the body parameter among the parameters of a method.
* `parametersOf` : the parameters of the operation.
* `requestBodyOf` : the request body that a parameter becomes.
-/

namespace ApiContract

/-- Whether a parameter is part of the operation; one that is not is reported. -/
def includesParameter (hooks : Hooks) (m : MethodDescriptor) (p : ParameterDescriptor) :
    Traced Bool :=
  if p.directives.isExcluded || !hooks.includesParameter m p then do
    Traced.report (.parameterExcluded p.name m.name)
    pure false
  else pure true

/-- Whether a parameter is bound to the body. -/
def ParameterDescriptor.isBodyBound (p : ParameterDescriptor) : Bool :=
  p.directives.binding?.any (·.location == .body)

/-- The places of the included parameters that are bound to the body. -/
def bodyBound (hooks : Hooks) (m : MethodDescriptor) :
    List (ParameterDescriptor × Nat) → Traced (List Nat)
  | [] => pure []
  | (p, i) :: rest =>
    if p.isBodyBound then do
      let included ← includesParameter hooks m p
      let others ← bodyBound hooks m rest
      pure (if included then i :: others else others)
    else bodyBound hooks m rest

/-- The place of the first included parameter that is a file or a container of files. -/
def firstFile (hooks : Hooks) (m : MethodDescriptor) :
    List (ParameterDescriptor × Nat) → Traced (Option Nat)
  | [] => pure none
  | (p, i) :: rest =>
    if p.type.isFileLike then do
      if ← includesParameter hooks m p then pure (some i) else firstFile hooks m rest
    else firstFile hooks m rest

/-- The place of the parameter that becomes the request body. -/
def bodyPosition (hooks : Hooks) (m : MethodDescriptor) : Traced (Option Nat) := do
  match ← bodyBound hooks m m.parameters.zipIdx with
  | [] => firstFile hooks m m.parameters.zipIdx
  | [i] => pure (some i)
  | several => .fail (.unsupportedShape (.severalBodies m.name several.length))

/-- Where a binding puts a parameter; the body is no such place. -/
def BindingLocation.parameterLocation? : BindingLocation → Option ParameterLocation
  | .path => some .path
  | .query => some .query
  | .header => some .header
  | .body => none

/-- The parameter of the operation that an included, bound parameter becomes, if its type has a
schema. Its description and its deprecation stand on the parameter and not on its schema. -/
def boundParameter (scope : Scope) (hooks : Hooks) (m : MethodDescriptor)
    (p : ParameterDescriptor) (binding : Binding) (location : ParameterLocation) :
    Traced (Option Parameter) := do
  let resolved ← (schemaOf scope .direct p.type).mapFault
    (Fault.locate (.inParameter p.name m.name))
  match resolved with
  | none =>
    Traced.report (.parameterUnmapped p.name m.name p.type)
    pure none
  | some schema =>
    let schema := p.directives.applyTo schema
    pure <| some <| hooks.interceptParameter m p {
      name := binding.resolveName p.name
      location
      required := binding.isRequired
      description := schema.description
      deprecated := schema.deprecated
      schema := { schema with description := none, deprecated := false } }

/-- The parameter of the operation that a declared parameter becomes, if it becomes one. -/
def parameterOf (scope : Scope) (hooks : Hooks) (m : MethodDescriptor) (p : ParameterDescriptor) :
    Traced (Option Parameter) :=
  match p.directives.binding? with
  | none => pure none
  | some binding =>
    match binding.location.parameterLocation? with
    | none => pure none
    | some location => do
      if ← includesParameter hooks m p then boundParameter scope hooks m p binding location
      else pure none

/-- The parameters of the operation, in order of declaration, from those that do not become the
body. -/
def parametersFrom (scope : Scope) (hooks : Hooks) (m : MethodDescriptor) (body : Option Nat) :
    List (ParameterDescriptor × Nat) → Traced (List Parameter)
  | [] => pure []
  | (p, i) :: rest =>
    if body = some i then parametersFrom scope hooks m body rest
    else do
      let produced ← parameterOf scope hooks m p
      let others ← parametersFrom scope hooks m body rest
      pure (produced.toList ++ others)

/-- The parameters of the operation. -/
def parametersOf (scope : Scope) (hooks : Hooks) (m : MethodDescriptor) (body : Option Nat) :
    Traced (List Parameter) :=
  parametersFrom scope hooks m body m.parameters.zipIdx

/-- The content type of requests and responses that declare none. -/
def jsonContent : String := "application/json"

/-- The content type of a file. -/
def fileContent : String := "application/octet-stream"

/-- The content type of several files. -/
def filesContent : String := "multipart/form-data"

/-- The name under which a parameter is known to callers. -/
def ParameterDescriptor.boundName (p : ParameterDescriptor) : String :=
  (p.directives.binding?.map (·.resolveName p.name)).getD p.name

/-- The schema and the content type of the body that a parameter becomes: files are sent as they
are, several files as parts of a form. -/
def bodyContent (scope : Scope) (m : MethodDescriptor) (p : ParameterDescriptor) :
    Traced (Option (Schema × String)) :=
  if p.type = .file then pure (some (.binary, fileContent))
  else if p.type.isFileLike then
    let form : ObjectShape Schema := {}
    pure (some (.object (form.insertProperty p.boundName (.array .binary) false), filesContent))
  else do
    let resolved ← (schemaOf scope .direct p.type).mapFault
      (Fault.locate (.inParameter p.name m.name))
    match resolved with
    | none =>
      Traced.report (.bodyUnmapped m.name p.type)
      pure none
    | some schema => pure (some (schema, jsonContent))

/-- The request body that a parameter becomes, if its type has a schema. -/
def requestBodyOf (scope : Scope) (hooks : Hooks) (m : MethodDescriptor) (route : Route)
    (p : ParameterDescriptor) : Traced (Option RequestBody) := do
  match ← bodyContent scope m p with
  | none => pure none
  | some (schema, contentType) =>
    let schema := p.directives.applyTo schema
    pure <| some <| hooks.interceptRequestBody m p {
      contentType := route.consumes.getD contentType
      required := (p.directives.binding?.map (·.isRequired)).getD true
      description := schema.description
      schema := { schema with description := none } }

end ApiContract
