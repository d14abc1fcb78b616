import ApiContract.Endpoint.Parameters
/-!
# Responses

A handler method may declare its responses one by one. A method that does not has one response, with
the declared status, or success, and its return type as content.
-/

namespace ApiContract

/-- The status of a method that declares none. -/
def defaultStatus : UInt16 := 200

/-- A response whose content, if it has any, is of a content type. -/
def responseWith (contentType description : String) (schema : Option Schema)
    (headers : Assoc String Header) : Response :=
  { description, contentType := schema.map fun _ => contentType, schema, headers }

/-- The headers of a declared response. A header whose type has no schema is a text. -/
def headersOf (scope : Scope) : Assoc String HeaderDecl → Traced (Assoc String Header)
  | [] => pure []
  | (name, h) :: rest => do
    let schema ← schemaOf scope .direct h.type
    let others ← headersOf scope rest
    pure ((name, ⟨h.description, schema.getD .text⟩) :: others)

/-- The response of a declaration. -/
def declaredResponse (scope : Scope) (contentType : String) (d : ResponseDecl) :
    Traced Response := do
  let schema ← match d.body with
    | none => pure none
    | some body => schemaOf scope .direct body
  let headers ← headersOf scope d.headers
  pure (responseWith contentType (d.description.getD (reasonPhrase d.code)) schema headers)

/-- Adds declared responses one by one; a status may be declared once. -/
def addResponses (scope : Scope) (method contentType : String)
    (responses : Assoc UInt16 Response) : List ResponseDecl → Traced (Assoc UInt16 Response)
  | [] => pure responses
  | d :: rest => do
    let response ← declaredResponse scope contentType d
    if responses.contains d.code then
      .fail (.configuration (.repeatedResponse method d.code))
    else addResponses scope method contentType (responses.insert d.code response) rest

/-- The responses of a method. -/
def responsesOf (scope : Scope) (m : MethodDescriptor) (route : Route) :
    Traced (Assoc UInt16 Response) :=
  let contentType := route.produces.getD jsonContent
  match m.directives.responses? with
  | some declared => addResponses scope m.name contentType [] declared
  | none => do
    let code := m.directives.responseStatus?.getD defaultStatus
    let schema ← schemaOf scope .direct m.returns
    pure [(code, responseWith contentType (reasonPhrase code) schema [])]

end ApiContract
