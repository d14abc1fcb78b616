import ApiContract.Endpoint.Path
import ApiContract.Endpoint.Responses
import ApiContract.Endpoint.TagName
/-!
# Operations

The operations of a handler type: one for each routed method, each of its paths and each of its
verbs, in that order. Parameters, request body and responses are the same for all operations of a
method.

* `operationsOfMethod` : the operations of a routed method.
* `operationsOf` : the operations of a handler type.
-/

namespace ApiContract

/-- The base path of a handler: none, or the only one that its route declares. -/
def basePath (handler : TypeDescriptor) : Except Fault String :=
  match handler.directives.route? with
  | none => .ok ""
  | some route =>
    match route.paths with
    | [] => .ok ""
    | [path] => .ok path
    | paths => .error (.configuration (.ambiguousBasePath handler.name paths))

/-- The tag of a handler. -/
def handlerTag (handler : TypeDescriptor) : String :=
  handler.directives.tag?.getD (kebabCase handler.simpleName)

/-- The paths of a method; a route without paths lies on the base path itself. -/
def Route.methodPaths (r : Route) : List String := if r.paths.isEmpty then [""] else r.paths

/-- The identifier of an operation, before repeated ones are renamed. -/
def operationId (m : MethodDescriptor) (route : Route) (verb : Verb) : String :=
  (nonEmpty? route.name).getD (m.name ++ "Using" ++ verb.name)

/-- Reports the variables of a path that no path parameter has the name of. -/
def reportUnbound (handler : TypeDescriptor) (m : MethodDescriptor) (path : String)
    (parameters : List Parameter) : List String → Traced Unit
  | [] => pure ()
  | v :: rest => do
    if !parameters.any fun p => p.location == .path && p.name == v then
      Traced.report (.unboundVariable v path handler.name m.name)
    reportUnbound handler m path parameters rest

/-- The operations of a method on one path. `template` is an operation of the method, to which path,
verb and identifier are to be added. -/
def operationsOnPath (hooks : Hooks) (handler : TypeDescriptor) (m : MethodDescriptor)
    (route : Route) (template : Operation) : List Verb → Traced (List Operation)
  | [] => pure []
  | verb :: rest => do
    let o := hooks.interceptOperation handler m
      { template with verb, id := operationId m route verb }
    Traced.report (.operationExtracted o.verb o.path o.id handler.name m.name)
    let others ← operationsOnPath hooks handler m route template rest
    pure (o :: others)

/-- The operations of a method on some paths. -/
def operationsOnPaths (hooks : Hooks) (handler : TypeDescriptor) (m : MethodDescriptor)
    (route : Route) (base : String) (template : Operation) :
    List String → Traced (List Operation)
  | [] => pure []
  | methodPath :: rest => do
    let path := preparePath [base, methodPath]
    reportUnbound handler m path template.parameters (pathVariables path)
    let here ← operationsOnPath hooks handler m route { template with path } route.verbs
    let others ← operationsOnPaths hooks handler m route base template rest
    pure (here ++ others)

/-- The operations of a routed method. -/
def operationsOfMethod (scope : Scope) (hooks : Hooks) (handler : TypeDescriptor)
    (base tag : String) (m : MethodDescriptor) (route : Route) : Traced (List Operation) :=
  if route.verbs.isEmpty then .fail (.configuration (.noVerbs handler.name m.name))
  else do
    let body ← bodyPosition hooks m
    let parameters ← parametersOf scope hooks m body
    let requestBody ← match body.bind fun i => m.parameters[i]? with
      | none => pure none
      | some p => requestBodyOf scope hooks m route p
    let responses ← responsesOf scope m route
    operationsOnPaths hooks handler m route base {
      verb := .get
      path := ""
      id := ""
      tag
      description := m.directives.description?.bind (·.description)
      deprecated := m.directives.isDeprecated || handler.directives.isDeprecated
      parameters
      requestBody
      responses } route.methodPaths

/-- The operations of some methods of a handler. Methods without a route have none. -/
def operationsOfMethods (scope : Scope) (hooks : Hooks) (handler : TypeDescriptor)
    (base tag : String) : List MethodDescriptor → Traced (List Operation)
  | [] => pure []
  | m :: rest =>
    match m.directives.route? with
    | none => operationsOfMethods scope hooks handler base tag rest
    | some route =>
      if m.directives.isExcluded || !hooks.includesOperation handler m then do
        Traced.report (.methodExcluded handler.name m.name)
        operationsOfMethods scope hooks handler base tag rest
      else do
        let here ← operationsOfMethod scope hooks handler base tag m route
        let others ← operationsOfMethods scope hooks handler base tag rest
        pure (here ++ others)

/-- The operations of a handler type. -/
def operationsOf (scope : Scope) (hooks : Hooks) (handler : TypeDescriptor) :
    Traced (List Operation) :=
  if handler.directives.isExcluded then do
    Traced.report (.handlerExcluded handler.name)
    pure []
  else do
    let base ← Traced.lift (basePath handler)
    operationsOfMethods scope hooks handler base (handlerTag handler) handler.methods

end ApiContract
