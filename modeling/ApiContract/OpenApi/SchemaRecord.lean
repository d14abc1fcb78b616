import ApiContract.Directive.Record
import ApiContract.OpenApi.Schema
/-!
# Schema objects as records

How a schema object is written, and how one is read. A keyword without a value is left out; a
keyword that is left out reads as one without a value.

* `SchemaObject.encode`, `SchemaObject.decode`. Reading is bounded by the levels of the tree.
-/

namespace ApiContract

namespace DiscriminatorObject

/-- Writes a discriminator. -/
def encode (d : DiscriminatorObject) : Json :=
  .record [.always "propertyName" (.str d.propertyName),
    .nonEmpty "mapping" (.table .str) d.mapping]

/-- Reads a discriminator. -/
def decode : Decoder DiscriminatorObject :=
  .record [("propertyName", .required), ("mapping", .defaulted)] { propertyName := "" }
    fun d field =>
      match field with
      | "propertyName" => .map (fun v => { d with propertyName := v }) .text
      | "mapping" => .map (fun v => { d with mapping := v }) (.table .text)
      | _ => .skip d

end DiscriminatorObject

namespace SchemaObject

mutual

/-- Writes a schema object. -/
def encode : SchemaObject → Json
  | ⟨type, format, description, properties, required, additionalProperties, items, constants, ref,
      allOf, oneOf, discriminator, discriminatorValue, minimum, maximum, minLength, maxLength,
      minItems, maxItems, pattern, deprecated, readOnly, writeOnly⟩ =>
    .record [
      .optional "type" .str type,
      .optional "format" .str format,
      .optional "description" .str description,
      .nonEmpty "properties" .obj (encodeProperties properties),
      .nonEmpty "required" .texts required,
      ⟨"additionalProperties", encode? additionalProperties⟩,
      ⟨"items", encode? items⟩,
      .nonEmpty "enum" .arr constants,
      .optional "$ref" .str ref,
      .nonEmpty "allOf" .arr (encodeAll allOf),
      .nonEmpty "oneOf" .arr (encodeAll oneOf),
      .optional "discriminator" DiscriminatorObject.encode discriminator,
      .optional "x-discriminator-value" .str discriminatorValue,
      .optional "minimum" .float minimum,
      .optional "maximum" .float maximum,
      .optional "minLength" encodeWord64 minLength,
      .optional "maxLength" encodeWord64 maxLength,
      .optional "minItems" encodeWord64 minItems,
      .optional "maxItems" encodeWord64 maxItems,
      .optional "pattern" .str pattern,
      .optional "deprecated" .bool deprecated,
      .optional "readOnly" .bool readOnly,
      .optional "writeOnly" .bool writeOnly]

/-- Writes some schema objects. -/
def encodeAll : List SchemaObject → List Json
  | [] => []
  | s :: rest => encode s :: encodeAll rest

/-- Writes the schema objects of some properties. -/
def encodeProperties : List (String × SchemaObject) → List (String × Json)
  | [] => []
  | (name, s) :: rest => (name, encode s) :: encodeProperties rest

/-- Writes a schema object that may be absent. -/
def encode? : Option SchemaObject → Option Json
  | none => none
  | some s => some (encode s)

end

/-- The keywords in the order in which they are written, and whether they may be absent. -/
def slots : List (String × Presence) := [
  ("type", .nullable), ("format", .nullable), ("description", .nullable),
  ("properties", .defaulted), ("required", .defaulted), ("additionalProperties", .nullable),
  ("items", .nullable), ("enum", .defaulted), ("$ref", .nullable), ("allOf", .defaulted),
  ("oneOf", .defaulted), ("discriminator", .nullable), ("x-discriminator-value", .nullable),
  ("minimum", .nullable), ("maximum", .nullable), ("minLength", .nullable),
  ("maxLength", .nullable), ("minItems", .nullable), ("maxItems", .nullable),
  ("pattern", .nullable), ("deprecated", .nullable), ("readOnly", .nullable),
  ("writeOnly", .nullable)]

/-- Reads the value of a keyword; `nested` reads the schema objects inside. -/
def setKeyword (nested : Decoder SchemaObject) (s : SchemaObject) (keyword : String) :
    Decoder SchemaObject :=
  match keyword with
  | "type" => .map (fun v => { s with type := v }) (.option .text)
  | "format" => .map (fun v => { s with format := v }) (.option .text)
  | "description" => .map (fun v => { s with description := v }) (.option .text)
  | "properties" => .map (fun v => { s with properties := v }) (.table nested)
  | "required" => .map (fun v => { s with required := v }) (.list .text)
  | "additionalProperties" =>
    .map (fun v => { s with additionalProperties := v }) (.option nested)
  | "items" => .map (fun v => { s with items := v }) (.option nested)
  | "enum" => .map (fun v => { s with constants := v }) (.list .json)
  | "$ref" => .map (fun v => { s with ref := v }) (.option .text)
  | "allOf" => .map (fun v => { s with allOf := v }) (.list nested)
  | "oneOf" => .map (fun v => { s with oneOf := v }) (.list nested)
  | "discriminator" =>
    .map (fun v => { s with discriminator := v }) (.option DiscriminatorObject.decode)
  | "x-discriminator-value" => .map (fun v => { s with discriminatorValue := v }) (.option .text)
  | "minimum" => .map (fun v => { s with minimum := v }) (.option .real)
  | "maximum" => .map (fun v => { s with maximum := v }) (.option .real)
  | "minLength" => .map (fun v => { s with minLength := v }) (.option .word64)
  | "maxLength" => .map (fun v => { s with maxLength := v }) (.option .word64)
  | "minItems" => .map (fun v => { s with minItems := v }) (.option .word64)
  | "maxItems" => .map (fun v => { s with maxItems := v }) (.option .word64)
  | "pattern" => .map (fun v => { s with pattern := v }) (.option .text)
  | "deprecated" => .map (fun v => { s with deprecated := v }) (.option .flag)
  | "readOnly" => .map (fun v => { s with readOnly := v }) (.option .flag)
  | "writeOnly" => .map (fun v => { s with writeOnly := v }) (.option .flag)
  | _ => .skip s

/-- Reads a schema object from a tree of at most so many levels. -/
def decodeWithin : Nat → Decoder SchemaObject
  | 0 => fun _ _ => .fail
  | levels + 1 => .record slots {} (setKeyword (decodeWithin levels))

/-- Reads a schema object. -/
def decode : Decoder SchemaObject := fun mode t => decodeWithin (mode.reach t) mode t

end SchemaObject

end ApiContract
