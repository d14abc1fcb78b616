import ApiContract.Component.Ancestry
import ApiContract.Component.FieldSchema
import ApiContract.Component.ValueSchema
import ApiContract.Hooks
/-!
# Components

`componentOf` gives the schema of a type that becomes a component. An enumeration lists its
constants. A class is an object with a property for each field, first those of the superclasses
whose fields are copied, from the farthest on; a polymorphic base gets its discriminator, and a
class with a superclass that is a component is composed with it.
-/

namespace ApiContract

/-- The property of a field, if its type has a schema. -/
def fieldProperty (scope : Scope) (hooks : Hooks) (owner : TypeDescriptor)
    (field : FieldDescriptor) : Traced (Option Property) := do
  let resolved ← (schemaOf scope .polymorphic field.type).mapFault
    (Fault.locate (.inField owner.name field.name))
  match resolved with
  | none =>
    Traced.report (.fieldUnmapped owner.name field.name field.type)
    pure none
  | some schema =>
    let property : Property :=
      ⟨field.directives.applyTo schema, field.type.neverAbsent || field.directives.isNotNull⟩
    pure (some (hooks.interceptField scope owner field property))

/-- Adds the fields of a class to an object, one by one. -/
def addFields (scope : Scope) (hooks : Hooks) (owner : TypeDescriptor)
    (object : ObjectShape Schema) : List FieldDescriptor → Traced (ObjectShape Schema)
  | [] => pure object
  | field :: rest =>
    if field.isSkipped then addFields scope hooks owner object rest
    else do
      match ← fieldProperty scope hooks owner field with
      | none => addFields scope hooks owner object rest
      | some p =>
        addFields scope hooks owner (object.insertProperty field.name p.schema p.required) rest

/-- Adds the fields of superclasses to the object of a class. -/
def flattenInto (scope : Scope) (hooks : Hooks) (type : String) (object : ObjectShape Schema) :
    List TypeDescriptor → Traced (ObjectShape Schema)
  | [] => pure object
  | ancestor :: rest => do
    Traced.report (.fieldsFlattened ancestor.name type)
    let object ← addFields scope hooks ancestor object ancestor.fields
    flattenInto scope hooks type object rest

/-- Makes an object that of a polymorphic base: the discriminator property is there and required,
and the discriminator maps its values. -/
def PolymorphicBase.addTo (b : PolymorphicBase) (object : ObjectShape Schema) :
    ObjectShape Schema :=
  let properties : Assoc String Schema := object.properties
  { object with
    properties :=
      if properties.contains b.property then properties else properties ++ [(b.property, .text)]
    required := addName object.required b.property
    discriminator := some b.discriminator }

/-- The discriminator value of a type under the first polymorphic base that lists it. -/
def subclassTag? (scope : Scope) (name : String) : Option String :=
  scope.polymorphism.bind fun bases => bases.findSome? fun (_, base) => base.tagOf? name

/-- The object of a class, before it is composed with a superclass. -/
def classObject (scope : Scope) (hooks : Hooks) (t : TypeDescriptor)
    (flattened : List TypeDescriptor) : Traced (ObjectShape Schema) := do
  let object ← flattenInto scope hooks t.name {} flattened.reverse
  let object ← addFields scope hooks t object t.fields
  match scope.polymorphicBase? t.name with
  | some base => pure (base.addTo object)
  | none => pure object

/-- The schema of a class. -/
def classSchema (scope : Scope) (hooks : Hooks) (t : TypeDescriptor) : Traced Schema := do
  let ancestry ← resolveAncestry scope t
  let object ← classObject scope hooks t ancestry.flattened
  match ancestry.parent with
  | none => pure (.object object)
  | some parent =>
    pure <| .composed {
      allOf := [.reference parent.simpleName, .object object]
      value := subclassTag? scope t.name }

/-- The schema of a type that becomes a component. -/
def componentOf (scope : Scope) (hooks : Hooks) (t : TypeDescriptor) : Traced Schema := do
  let schema ← if t.isEnum then pure (.enumeration t.constants) else classSchema scope hooks t
  let schema := hooks.interceptSchema scope t (t.directives.applyToType schema)
  Traced.report (.typeTransformed t.name t.simpleName)
  pure schema

end ApiContract
