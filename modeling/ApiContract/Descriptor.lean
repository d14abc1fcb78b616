import ApiContract.Directive.Basic
import ApiContract.Names
/-!
# Type descriptors

What a host program exports about one of its types: the fields of a class, the constants of an
enumeration, the superclass, the directives, and for handler types the methods with their
parameters. `TypeDescriptor.declaresRoutes` tells handler types from data types.
-/

namespace ApiContract

/-- Whether a type is a class or an enumeration. -/
inductive TypeKind where
  | classType
  | enumeration
deriving DecidableEq, Repr, Inhabited

/-- A declared field. Class-level (static) fields never become properties. -/
structure FieldDescriptor where
  name : String
  type : TypeRef
  isStatic : Bool := false
  directives : Directives := []
deriving DecidableEq, Repr, Inhabited

/-- A declared parameter of a handler method. -/
structure ParameterDescriptor where
  name : String
  type : TypeRef
  directives : Directives := []
deriving DecidableEq, Repr, Inhabited

/-- A method of a handler type. -/
structure MethodDescriptor where
  name : String
  parameters : List ParameterDescriptor := []
  returns : TypeRef := .void
  directives : Directives := []
deriving DecidableEq, Repr, Inhabited

/-- A named type of the host program. -/
structure TypeDescriptor where
  name : String
  kind : TypeKind := .classType
  constants : List String := []
  fields : List FieldDescriptor := []
  superclass : Option String := none
  directives : Directives := []
  methods : List MethodDescriptor := []
deriving DecidableEq, Repr, Inhabited

namespace TypeDescriptor

/-- The namespace of the type. -/
def namespaceName (t : TypeDescriptor) : String := namespaceOf t.name

/-- The name of the type without its namespace. -/
def simpleName (t : TypeDescriptor) : String := simpleNameOf t.name

/-- Whether the type is an enumeration. -/
def isEnum (t : TypeDescriptor) : Bool := t.kind == .enumeration

/-- Whether the type or one of its methods declares a route. -/
def declaresRoutes (t : TypeDescriptor) : Bool :=
  t.directives.route?.isSome || t.methods.any (·.directives.route?.isSome)

end TypeDescriptor

/-- Whether a field is never turned into a property. -/
def FieldDescriptor.isSkipped (f : FieldDescriptor) : Bool :=
  f.isStatic || f.directives.isIgnored || f.directives.isExcluded

/-- A parameter that carries one binding. -/
def ParameterDescriptor.bound (name : String) (type : TypeRef) (binding : Binding) :
    ParameterDescriptor :=
  { name, type, directives := [.binding binding] }

end ApiContract
