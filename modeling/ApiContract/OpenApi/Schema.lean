import ApiContract.Json.Basic
import ApiContract.Schema
/-!
# Schema objects

A schema as an OpenAPI 3.0 document states it: one object in which every keyword has a place.
`Schema.toObject` gives the object of a schema.

References stand alone, since keywords beside `$ref` are ignored: a reference with a description, or
marked in any way, becomes a composition of the bare reference, and the composition carries the
marks.
-/

namespace ApiContract

/-- The property that tells subclasses apart, and a reference for each of its values. -/
structure DiscriminatorObject where
  propertyName : String
  mapping : Assoc String String := []
deriving DecidableEq, Repr, Inhabited

/-- A schema with a place for every keyword. -/
structure SchemaObject where
  type : Option String := none
  format : Option String := none
  description : Option String := none
  properties : List (String × SchemaObject) := []
  required : List String := []
  additionalProperties : Option SchemaObject := none
  items : Option SchemaObject := none
  constants : List Json := []
  ref : Option String := none
  allOf : List SchemaObject := []
  oneOf : List SchemaObject := []
  discriminator : Option DiscriminatorObject := none
  discriminatorValue : Option String := none
  minimum : Option Binary64 := none
  maximum : Option Binary64 := none
  minLength : Option UInt64 := none
  maxLength : Option UInt64 := none
  minItems : Option UInt64 := none
  maxItems : Option UInt64 := none
  pattern : Option String := none
  deprecated : Option Bool := none
  readOnly : Option Bool := none
  writeOnly : Option Bool := none
deriving Repr, Inhabited

/-- The reference to a component. -/
def componentRef (name : String) : String := "#/components/schemas/" ++ name

/-- True where a mark is set, absent elsewhere. -/
def markIf (set : Bool) : Option Bool := if set then some true else none

/-- The name of a data type. -/
def DataType.name : DataType → String
  | .object => "object"
  | .string => "string"
  | .integer => "integer"
  | .number => "number"
  | .boolean => "boolean"

/-- The name of a numeric type. -/
def NumericType.name : NumericType → String
  | .integer => "integer"
  | .number => "number"

/-- The discriminator with references in the place of component names. -/
def Discriminator.toObject (d : Discriminator) : DiscriminatorObject :=
  ⟨d.property, d.mapping.map fun (tag, component) => (tag, componentRef component)⟩

namespace Schema

/-- Adds the attributes that every schema may have. -/
def annotate (s : SchemaObject) (description : Option String) (deprecated : Bool)
    (access : Option Access) : SchemaObject :=
  { s with
    description
    deprecated := markIf deprecated
    readOnly := markIf (access == some .readOnly)
    writeOnly := markIf (access == some .writeOnly) }

/-- The object of a reference: bare, or composed of the bare reference where it carries attributes
of its own. -/
def referenceObject (target : String) (description : Option String) (deprecated : Bool)
    (access : Option Access) : SchemaObject :=
  let bare : SchemaObject := { ref := some (componentRef target) }
  if description.isNone && !deprecated && access.isNone then bare
  else annotate { allOf := [bare] } description deprecated access

mutual

/-- The object of a schema. -/
def toObject : Schema → SchemaObject
  | ⟨.primitive p, description, deprecated, access⟩ =>
    annotate { type := some p.dataType.name, format := p.format } description deprecated access
  | ⟨.string t, description, deprecated, access⟩ =>
    annotate {
      type := some "string"
      format := t.format
      pattern := t.pattern
      minLength := t.minLength
      maxLength := t.maxLength } description deprecated access
  | ⟨.number n, description, deprecated, access⟩ =>
    annotate {
      type := some n.numericType.name
      format := n.format
      minimum := n.minimum
      maximum := n.maximum } description deprecated access
  | ⟨.boolean, description, deprecated, access⟩ =>
    annotate { type := some "boolean" } description deprecated access
  | ⟨.array ⟨items, minItems, maxItems⟩, description, deprecated, access⟩ =>
    annotate { type := some "array", items := some (toObject items), minItems, maxItems }
      description deprecated access
  | ⟨.enumeration values, description, deprecated, access⟩ =>
    annotate { type := some "string", constants := values.map .str } description deprecated access
  | ⟨.reference target, description, deprecated, access⟩ =>
    referenceObject target description deprecated access
  | ⟨.composed ⟨allOf, oneOf, discriminator, value⟩, description, deprecated, access⟩ =>
    annotate {
      allOf := toObjects allOf
      oneOf := toObjects oneOf
      discriminator := discriminator.map Discriminator.toObject
      discriminatorValue := value } description deprecated access
  | ⟨.object ⟨properties, required, discriminator, additional⟩, description, deprecated, access⟩ =>
    annotate {
      type := some "object"
      properties := toProperties properties
      required
      additionalProperties := toObject? additional
      discriminator := discriminator.map Discriminator.toObject } description deprecated access

/-- The objects of some schemas. -/
def toObjects : List Schema → List SchemaObject
  | [] => []
  | s :: rest => toObject s :: toObjects rest

/-- The objects of some properties. -/
def toProperties : List (String × Schema) → List (String × SchemaObject)
  | [] => []
  | (name, s) :: rest => (name, toObject s) :: toProperties rest

/-- The object of a schema that may be absent. -/
def toObject? : Option Schema → Option SchemaObject
  | none => none
  | some s => some (toObject s)

end

end Schema

end ApiContract
