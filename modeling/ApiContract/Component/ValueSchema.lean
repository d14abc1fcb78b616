import ApiContract.Schema
import ApiContract.Scope
/-!
# Schemas of value types

`schemaOf` gives the schema of a value type. Types without a schema (`void` and foreign types) give
none, and whoever asked leaves the element out. Containers directly inside containers are refused.

* `ReferenceStyle` : whether a polymorphic base is described by its subclasses or referred to.
* `leafSchema` : the schema of a type that is no wrapper and no name.
* `namedSchema` : the schema of a named type: a component, or an object of which nothing is known.
-/

namespace ApiContract

/-- How a polymorphic base is described: in the fields of components as one of its subclasses, in
operations by a reference to its own component. -/
inductive ReferenceStyle where
  | polymorphic
  | direct
deriving DecidableEq, Repr

/-- The schema of a primitive kind, boxed or not. -/
def Primitive.schema : Primitive → Schema
  | .int32 => .integer "int32"
  | .int64 => .integer "int64"
  | .float => .number "float"
  | .double => .number "double"
  | .boolean => .boolean
  | .string => .text

/-- The discriminator of a polymorphic base. -/
def PolymorphicBase.discriminator (b : PolymorphicBase) : Discriminator := ⟨b.property, b.mapping⟩

/-- One of the subclasses of a polymorphic base. -/
def PolymorphicBase.alternatives (b : PolymorphicBase) : Schema :=
  .composed { oneOf := b.components.map Schema.reference, discriminator := some b.discriminator }

/-- The schema of a named type. -/
def namedSchema (scope : Scope) (style : ReferenceStyle) (name : String) : Traced Schema :=
  match scope.component? name with
  | none => do
    Traced.report (.notAComponent name)
    pure .genericObject
  | some type =>
    match style, scope.polymorphicBase? name with
    | .polymorphic, some base => pure base.alternatives
    | _, _ => pure (.reference type.simpleName)

/-- The schema of a list or an array of a type. -/
def containerSchema (type element : TypeRef) (items : Traced (Option Schema)) :
    Traced (Option Schema) :=
  if element.isContainer then .fail (.unsupportedShape (.nestedContainers type))
  else do return (← items).map .array

/-- The schema of a value type, if it has one. -/
def schemaOf (scope : Scope) (style : ReferenceStyle) : TypeRef → Traced (Option Schema)
  | .primitive kind _ => pure (some kind.schema)
  | .date => pure (some (.formatted "date"))
  | .dateTime => pure (some (.formatted "date-time"))
  | .uuid => pure (some (.formatted "uuid"))
  | .file => pure (some .binary)
  | .void => pure none
  | .foreign _ => pure none
  | .list element => containerSchema (.list element) element (schemaOf scope style element)
  | .array element => containerSchema (.array element) element (schemaOf scope style element)
  | .map value => do return (← schemaOf scope style value).map .tableOf
  | .envelope inner => schemaOf scope style inner
  | .named name => do return some (← namedSchema scope style name)

end ApiContract
