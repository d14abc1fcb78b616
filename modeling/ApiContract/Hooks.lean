import ApiContract.Document
import ApiContract.Scope
/-!
# Hooks

Callers can take part in a generation. Filters decide, before anything is built, whether a type, a
method or a parameter is part of it; an element is kept only if every filter accepts it.
Interceptors change a schema, a property, an operation, a parameter or a request body after it is
built, in the order in which they were registered. Hooks are pure functions.
-/

namespace ApiContract

/-- The schema of a property, and whether the property is required. -/
structure Property where
  schema : Schema
  required : Bool

/-- The hooks of a generation. -/
structure Hooks where
  schemaInterceptors : List (Scope → TypeDescriptor → Schema → Schema) := []
  fieldInterceptors : List (Scope → TypeDescriptor → FieldDescriptor → Property → Property) := []
  operationInterceptors :
    List (TypeDescriptor → MethodDescriptor → Operation → Operation) := []
  parameterInterceptors :
    List (MethodDescriptor → ParameterDescriptor → Parameter → Parameter) := []
  requestBodyInterceptors :
    List (MethodDescriptor → ParameterDescriptor → RequestBody → RequestBody) := []
  typeFilters : List (TypeDescriptor → Bool) := []
  operationFilters : List (TypeDescriptor → MethodDescriptor → Bool) := []
  parameterFilters : List (MethodDescriptor → ParameterDescriptor → Bool) := []

namespace Hooks

/-- No hooks at all. -/
def none : Hooks := {}

/-- The number of interceptors of all kinds. -/
def interceptorCount (h : Hooks) : Nat :=
  h.schemaInterceptors.length + h.fieldInterceptors.length + h.operationInterceptors.length +
    h.parameterInterceptors.length + h.requestBodyInterceptors.length

/-- Whether every filter accepts a type. -/
def includesType (h : Hooks) (t : TypeDescriptor) : Bool := h.typeFilters.all (· t)

/-- Whether every filter accepts a method of a handler. -/
def includesOperation (h : Hooks) (handler : TypeDescriptor) (m : MethodDescriptor) : Bool :=
  h.operationFilters.all (· handler m)

/-- Whether every filter accepts a parameter of a method. -/
def includesParameter (h : Hooks) (m : MethodDescriptor) (p : ParameterDescriptor) : Bool :=
  h.parameterFilters.all (· m p)

/-- Passes the schema of a type through all interceptors. -/
def interceptSchema (h : Hooks) (scope : Scope) (t : TypeDescriptor) (s : Schema) : Schema :=
  h.schemaInterceptors.foldl (fun s f => f scope t s) s

/-- Passes the property of a field through all interceptors. -/
def interceptField (h : Hooks) (scope : Scope) (owner : TypeDescriptor) (field : FieldDescriptor)
    (p : Property) : Property :=
  h.fieldInterceptors.foldl (fun p f => f scope owner field p) p

/-- Passes an operation through all interceptors. -/
def interceptOperation (h : Hooks) (handler : TypeDescriptor) (m : MethodDescriptor)
    (o : Operation) : Operation :=
  h.operationInterceptors.foldl (fun o f => f handler m o) o

/-- Passes a parameter through all interceptors. -/
def interceptParameter (h : Hooks) (m : MethodDescriptor) (declared : ParameterDescriptor)
    (p : Parameter) : Parameter :=
  h.parameterInterceptors.foldl (fun p f => f m declared p) p

/-- Passes a request body through all interceptors. -/
def interceptRequestBody (h : Hooks) (m : MethodDescriptor) (declared : ParameterDescriptor)
    (b : RequestBody) : RequestBody :=
  h.requestBodyInterceptors.foldl (fun b f => f m declared b) b

/-- The number of hooks of each kind, by name. -/
def counts (h : Hooks) : List (String × Nat) :=
  [("schema_interceptors", h.schemaInterceptors.length),
    ("field_interceptors", h.fieldInterceptors.length),
    ("operation_interceptors", h.operationInterceptors.length),
    ("parameter_interceptors", h.parameterInterceptors.length),
    ("request_body_interceptors", h.requestBodyInterceptors.length),
    ("type_filters", h.typeFilters.length), ("operation_filters", h.operationFilters.length),
    ("parameter_filters", h.parameterFilters.length)]

/-- A summary of the registered hooks. -/
def summary (h : Hooks) : String :=
  "Pipeline \x7b " ++
    ", ".intercalate (h.counts.map fun (name, n) => name ++ ": " ++ toString n) ++ " \x7d"

end Hooks

end ApiContract
