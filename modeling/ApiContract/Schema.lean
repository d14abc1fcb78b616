import ApiContract.Assoc
import ApiContract.Directive.Basic
/-!
# Schemas

A `Schema` describes the shape of a value: its kind with the attributes that belong to the kind, and
the attributes that every schema may have. Schemas refer to components by name, independently of
any output format.

* `Shape` : the kinds, with the schemas nested in them as a parameter; `Schema` ties the knot.
* `ObjectShape.insertProperty` : adds a property.
* `Schema.references` : the components that a schema refers to, in the order of the schema.
-/

namespace ApiContract

/-- The data type of a bare primitive. -/
inductive DataType where
  | object
  | string
  | integer
  | number
  | boolean
deriving DecidableEq, Repr, Inhabited

/-- Whether a number is an integer. -/
inductive NumericType where
  | integer
  | number
deriving DecidableEq, Repr, Inhabited

/-- The property that tells subclasses apart, and the component for each of its values. -/
structure Discriminator where
  property : String
  mapping : Assoc String String := []
deriving DecidableEq, Repr, Inhabited

/-- A data type with a format. -/
structure PrimitiveShape where
  dataType : DataType
  format : Option String := none
deriving DecidableEq, Repr, Inhabited

/-- A text. -/
structure StringShape where
  format : Option String := none
  pattern : Option String := none
  minLength : Option UInt64 := none
  maxLength : Option UInt64 := none
deriving DecidableEq, Repr, Inhabited

/-- A number. -/
structure NumberShape where
  numericType : NumericType
  format : Option String := none
  minimum : Option Binary64 := none
  maximum : Option Binary64 := none
deriving DecidableEq, Repr, Inhabited

/-- A sequence of items. -/
structure ArrayShape (σ : Type) where
  items : σ
  minItems : Option UInt64 := none
  maxItems : Option UInt64 := none
deriving DecidableEq, Repr, Inhabited

/-- A composition: all of some schemas, or one of some. `value` is the discriminator value of the
subclass that the composition describes. -/
structure ComposedShape (σ : Type) where
  allOf : List σ := []
  oneOf : List σ := []
  discriminator : Option Discriminator := none
  value : Option String := none
deriving DecidableEq, Repr, Inhabited

/-- An object: its properties in order, the names of the required ones, and the schema of all other
properties. -/
structure ObjectShape (σ : Type) where
  properties : List (String × σ) := []
  required : List String := []
  discriminator : Option Discriminator := none
  additional : Option σ := none
deriving DecidableEq, Repr, Inhabited

/-- The kind of a schema, with nested schemas of type `σ`. -/
inductive Shape (σ : Type) where
  | primitive (shape : PrimitiveShape)
  | string (shape : StringShape)
  | number (shape : NumberShape)
  | boolean
  | array (shape : ArrayShape σ)
  | enumeration (values : List String)
  | reference (target : String)
  | composed (shape : ComposedShape σ)
  | object (shape : ObjectShape σ)
deriving Repr, Inhabited

/-- The shape of a value, with its description, and the marks for deprecated, read-only and
write-only values. -/
structure Schema where
  shape : Shape Schema
  description : Option String := none
  deprecated : Bool := false
  access : Option Access := none

deriving instance Repr for Schema

namespace ObjectShape

variable {σ : Type}

/-- Adds a property, or replaces the schema of one that is there. A property once required stays
required. -/
def insertProperty (o : ObjectShape σ) (name : String) (schema : σ) (required : Bool) :
    ObjectShape σ :=
  { o with
    properties := Assoc.insert o.properties name schema
    required := if required then addName o.required name else o.required }

/-- Marks a name as required. -/
def require (o : ObjectShape σ) (name : String) : ObjectShape σ :=
  { o with required := addName o.required name }

end ObjectShape

namespace Schema

/-- A schema of a kind, without further attributes. -/
def ofShape (shape : Shape Schema) : Schema := { shape }

/-- A text. -/
def text : Schema := ofShape (.string {})

/-- A text with a format. -/
def formatted (format : String) : Schema := ofShape (.string { format := some format })

/-- The bytes of a file. -/
def binary : Schema := formatted "binary"

/-- An integer with a format. -/
def integer (format : String) : Schema :=
  ofShape (.number { numericType := .integer, format := some format })

/-- A number with a format. -/
def number (format : String) : Schema :=
  ofShape (.number { numericType := .number, format := some format })

/-- A truth value. -/
def boolean : Schema := ofShape .boolean

/-- An object of which nothing is described. -/
def genericObject : Schema := ofShape (.primitive { dataType := .object })

/-- A sequence of items. -/
def array (items : Schema) : Schema := ofShape (.array { items })

/-- One of some constants. -/
def enumeration (values : List String) : Schema := ofShape (.enumeration values)

/-- The component with a name. -/
def reference (target : String) : Schema := ofShape (.reference target)

/-- An object. -/
def object (shape : ObjectShape Schema) : Schema := ofShape (.object shape)

/-- A composition. -/
def composed (shape : ComposedShape Schema) : Schema := ofShape (.composed shape)

/-- An object with arbitrary properties of one schema. -/
def tableOf (value : Schema) : Schema := object { additional := some value }

/-- The schema with a description. -/
def describe (s : Schema) (text : String) : Schema := { s with description := some text }

/-- The object of a schema that is one. -/
def asObject? (s : Schema) : Option (ObjectShape Schema) :=
  match s.shape with
  | .object o => some o
  | _ => none

/-- The composition of a schema that is one. -/
def asComposed? (s : Schema) : Option (ComposedShape Schema) :=
  match s.shape with
  | .composed c => some c
  | _ => none

/-- The array of a schema that is one. -/
def asArray? (s : Schema) : Option (ArrayShape Schema) :=
  match s.shape with
  | .array a => some a
  | _ => none

/-- The component that a reference refers to. -/
def target? (s : Schema) : Option String :=
  match s.shape with
  | .reference target => some target
  | _ => none

/-- Changes the object of a schema that is one. -/
def mapObject (f : ObjectShape Schema → ObjectShape Schema) (s : Schema) : Schema :=
  match s.shape with
  | .object o => { s with shape := .object (f o) }
  | _ => s

/-- The components in the mapping of a discriminator. -/
def mappedComponents (d : Option Discriminator) : List String :=
  match d with
  | some d => d.mapping.values
  | none => []

mutual

/-- The components that a schema refers to, in order and as often as it does. -/
def references : Schema → List String
  | ⟨.primitive _, _, _, _⟩ => []
  | ⟨.string _, _, _, _⟩ => []
  | ⟨.number _, _, _, _⟩ => []
  | ⟨.boolean, _, _, _⟩ => []
  | ⟨.enumeration _, _, _, _⟩ => []
  | ⟨.reference target, _, _, _⟩ => [target]
  | ⟨.array ⟨items, _, _⟩, _, _, _⟩ => references items
  | ⟨.composed ⟨allOf, oneOf, discriminator, _⟩, _, _, _⟩ =>
    referencesOfAll allOf ++ referencesOfAll oneOf ++ mappedComponents discriminator
  | ⟨.object ⟨properties, _, discriminator, additional⟩, _, _, _⟩ =>
    referencesOfProperties properties ++ referencesOfOption additional ++
      mappedComponents discriminator

/-- `references` of each schema of a list. -/
def referencesOfAll : List Schema → List String
  | [] => []
  | s :: rest => references s ++ referencesOfAll rest

/-- `references` of each property. -/
def referencesOfProperties : List (String × Schema) → List String
  | [] => []
  | (_, s) :: rest => references s ++ referencesOfProperties rest

/-- `references` of a schema that may be absent. -/
def referencesOfOption : Option Schema → List String
  | none => []
  | some s => references s

end

end Schema

end ApiContract
