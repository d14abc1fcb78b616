import ApiContract.OpenApi.SchemaRecord
import ApiContract.Proofs.Contents
import ApiContract.Proofs.Parts
/-!
# How schemas are stated

The object of a schema states all that the schema says, and nothing else: each keyword has its value
from one attribute, whatever the kind of the schema. What stands in a schema is stated in the same
places. Only a reference may be stated by two objects, and then the one with `$ref` stands alone in
the other one, which carries the attributes.

* `SchemaObject.parts`, `SchemaObject.Inside` : what stands in a schema object.
* `Schema.typeName?`, `Schema.format?`, … : the attributes that kinds have in common.
* `annotate_eq` : a mark is true where a schema has it, and absent elsewhere.
* `toObject_eq_keywords`, `toObject_eq_reference` : the keywords, one by one.
* `parts_toObject` : the objects of the parts stand in the object, in the same order.
* `eq_bare_of_ref` : a keyword `$ref` has no other keyword beside it.
* `attributes_stated` : the statement for everything that stands in a schema.
-/

namespace ApiContract

namespace SchemaObject

/-- The schema objects that stand directly in one. -/
def parts (x : SchemaObject) : List SchemaObject :=
  Assoc.values x.properties ++ x.additionalProperties.toList ++ x.items.toList ++ x.allOf ++ x.oneOf

/-- A schema object stands anywhere in another one. -/
inductive Inside (node : SchemaObject) : SchemaObject → Prop
  | self : Inside node node
  | part {x p : SchemaObject} (hp : p ∈ x.parts) : Inside node p → Inside node x

end SchemaObject

namespace Schema

/-! ## Attributes of all kinds -/

/-- The name of the type of a value. References and compositions have none. -/
def typeName? (s : Schema) : Option String :=
  match s.shape with
  | .primitive ⟨.object, _⟩ => some "object"
  | .primitive ⟨.string, _⟩ => some "string"
  | .primitive ⟨.integer, _⟩ => some "integer"
  | .primitive ⟨.number, _⟩ => some "number"
  | .primitive ⟨.boolean, _⟩ => some "boolean"
  | .string _ => some "string"
  | .number ⟨.integer, _, _, _⟩ => some "integer"
  | .number ⟨.number, _, _, _⟩ => some "number"
  | .boolean => some "boolean"
  | .array _ => some "array"
  | .enumeration _ => some "string"
  | .object _ => some "object"
  | .reference _ => none
  | .composed _ => none

/-- The format of a primitive, a text or a number. -/
def format? (s : Schema) : Option String :=
  match s.shape with
  | .primitive p => p.format
  | .string t => t.format
  | .number n => n.format
  | _ => none

/-- The text of a schema that is one. -/
def asString? (s : Schema) : Option StringShape :=
  match s.shape with
  | .string t => some t
  | _ => none

/-- The number of a schema that is one. -/
def asNumber? (s : Schema) : Option NumberShape :=
  match s.shape with
  | .number n => some n
  | _ => none

/-- The constants of an enumeration. -/
def constants (s : Schema) : List String :=
  match s.shape with
  | .enumeration values => values
  | _ => []

/-- The properties of an object. -/
def properties (s : Schema) : Assoc String Schema := (s.asObject?.map (·.properties)).getD []

/-- The names of the required properties of an object. -/
def required (s : Schema) : List String := (s.asObject?.map (·.required)).getD []

/-- What all of a composition is composed of. -/
def allOf (s : Schema) : List Schema := (s.asComposed?.map (·.allOf)).getD []

/-- What a composition is a choice of. -/
def oneOf (s : Schema) : List Schema := (s.asComposed?.map (·.oneOf)).getD []

/-- A schema has a description or is marked in some way. -/
def IsAnnotated (s : Schema) : Prop :=
  s.description ≠ none ∨ s.deprecated = true ∨ s.access ≠ none

instance (s : Schema) : Decidable s.IsAnnotated :=
  inferInstanceAs (Decidable (_ ∨ _ ∨ _))

variable {s : Schema} {x : SchemaObject}

/-! ## Keywords -/

theorem toObjects_eq_map (schemas : List Schema) : toObjects schemas = schemas.map toObject := by
  induction schemas with
  | nil => rfl
  | cons s rest ih => rw [toObjects, List.map_cons, ih]

theorem toProperties_eq_mapValues (properties : Assoc String Schema) :
    toProperties properties = properties.mapValues toObject := by
  induction properties with
  | nil => rfl
  | cons p rest ih =>
    obtain ⟨name, s⟩ := p
    rw [toProperties, ih]
    rfl

theorem toObject?_eq_map (s : Option Schema) : toObject? s = s.map toObject := by
  cases s with
  | none => rfl
  | some s => rw [toObject?, Option.map_some]

theorem markIf_beq (a b : Option Access) : markIf (a == b) = if a = b then some true else none := by
  simp only [markIf, beq_iff_eq]

/-- A mark is true where the schema has it, and absent elsewhere. -/
theorem annotate_eq (x : SchemaObject) (description : Option String) (deprecated : Bool)
    (access : Option Access) :
    annotate x description deprecated access = { x with
      description
      deprecated := if deprecated then some true else none
      readOnly := if access = some .readOnly then some true else none
      writeOnly := if access = some .writeOnly then some true else none } := by
  rw [annotate, markIf_beq, markIf_beq]
  rfl

/-- Each keyword of the object of a schema, unless that is a reference. -/
theorem toObject_eq_keywords (h : s.target? = none) : s.toObject = {
    type := s.typeName?
    format := s.format?
    description := s.description
    properties := s.properties.mapValues toObject
    required := s.required
    additionalProperties := s.values?.map toObject
    items := s.items?.map toObject
    constants := s.constants.map .str
    allOf := s.allOf.map toObject
    oneOf := s.oneOf.map toObject
    discriminator := s.discriminator?.map Discriminator.toObject
    discriminatorValue := s.asComposed?.bind (·.value)
    minimum := s.asNumber?.bind (·.minimum)
    maximum := s.asNumber?.bind (·.maximum)
    minLength := s.asString?.bind (·.minLength)
    maxLength := s.asString?.bind (·.maxLength)
    minItems := s.asArray?.bind (·.minItems)
    maxItems := s.asArray?.bind (·.maxItems)
    pattern := s.asString?.bind (·.pattern)
    deprecated := if s.deprecated then some true else none
    readOnly := if s.access = some .readOnly then some true else none
    writeOnly := if s.access = some .writeOnly then some true else none } := by
  obtain ⟨shape, description, deprecated, access⟩ := s
  cases shape with
  | reference target => cases h
  | composed c =>
    obtain ⟨allOf, oneOf, discriminator, value⟩ := c
    rw [toObject, toObjects_eq_map, toObjects_eq_map, annotate_eq]
    rfl
  | object o =>
    obtain ⟨properties, required, discriminator, additional⟩ := o
    rw [toObject, toProperties_eq_mapValues, toObject?_eq_map, annotate_eq]
    rfl
  | array a =>
    obtain ⟨items, least, greatest⟩ := a
    rw [toObject, annotate_eq]
    rfl
  | primitive p =>
    obtain ⟨dataType, format⟩ := p
    rw [toObject, annotate_eq]
    cases dataType <;> rfl
  | number n =>
    obtain ⟨numericType, format, least, greatest⟩ := n
    rw [toObject, annotate_eq]
    cases numericType <;> rfl
  | _ =>
    rw [toObject, annotate_eq]
    rfl

theorem not_isAnnotated_iff :
    ¬ s.IsAnnotated ↔ (s.description.isNone && !s.deprecated && s.access.isNone) = true := by
  simp [IsAnnotated, and_assoc]

/-- The keywords of the object of a reference. -/
theorem toObject_eq_reference {target : String} (h : s.target? = some target) :
    s.toObject = if s.IsAnnotated then {
        description := s.description
        allOf := [{ ref := some (componentRef target) }]
        deprecated := if s.deprecated then some true else none
        readOnly := if s.access = some .readOnly then some true else none
        writeOnly := if s.access = some .writeOnly then some true else none }
      else { ref := some (componentRef target) } := by
  obtain ⟨shape, description, deprecated, access⟩ := s
  cases shape with
  | reference target' =>
    obtain rfl := Option.some.inj h
    rw [toObject, referenceObject, annotate_eq]
    by_cases ha : IsAnnotated ⟨.reference target', description, deprecated, access⟩
    · rw [if_pos ha, if_neg fun hbare => not_isAnnotated_iff.2 hbare ha]
    · rw [if_neg ha, if_pos (not_isAnnotated_iff.1 ha)]
  | _ => cases h

/-- The attributes that every schema may have. -/
theorem annotations_toObject (s : Schema) :
    s.toObject.description = s.description ∧
    s.toObject.deprecated = (if s.deprecated then some true else none) ∧
    s.toObject.readOnly = (if s.access = some .readOnly then some true else none) ∧
    s.toObject.writeOnly = (if s.access = some .writeOnly then some true else none) := by
  cases h : s.target? with
  | none =>
    rw [toObject_eq_keywords h]
    exact ⟨rfl, rfl, rfl, rfl⟩
  | some target =>
    rw [toObject_eq_reference h]
    by_cases ha : s.IsAnnotated
    · rw [if_pos ha]
      exact ⟨rfl, rfl, rfl, rfl⟩
    · simp only [IsAnnotated, not_or, not_not, Bool.not_eq_true] at ha
      obtain ⟨hdescription, hdeprecated, haccess⟩ := ha
      simp [IsAnnotated, hdescription, hdeprecated, haccess]

/-! ## What stands in an object -/

/-- The objects of the parts of a schema are the parts of its object. -/
theorem parts_toObject (h : s.target? = none) : s.toObject.parts = s.parts.map toObject := by
  rw [toObject_eq_keywords h]
  obtain ⟨shape, description, deprecated, access⟩ := s
  cases shape <;>
    simp [SchemaObject.parts, parts, properties, allOf, oneOf, values?, items?, asObject?,
      asComposed?, asArray?, Assoc.values_mapValues, Option.toList_map]

/-- In the object of a reference there is nothing but the bare reference. -/
theorem eq_of_mem_parts_reference {target : String} (h : s.target? = some target)
    (hx : x ∈ s.toObject.parts) : x = { ref := some (componentRef target) } := by
  rw [toObject_eq_reference h] at hx
  split at hx
  · exact List.mem_singleton.1 hx
  · cases hx

theorem target?_of_mem_parts {p : Schema} (h : p ∈ s.parts) : s.target? = none := by
  obtain ⟨shape, description, deprecated, access⟩ := s
  cases shape with
  | reference target => cases h
  | _ => rfl

/-- Whatever stands in a schema is stated in its object. -/
theorem inside_toObject {node : Schema} (h : Inside node s) :
    SchemaObject.Inside node.toObject s.toObject := by
  induction h with
  | self => exact .self
  | part hp _ ih =>
    refine .part ?_ ih
    rw [parts_toObject (target?_of_mem_parts hp)]
    exact List.mem_map_of_mem hp

/-- Whatever stands in the object of a schema is the object of something that stands in the schema,
or the bare reference that such a thing is. -/
theorem exists_node_of_inside_toObject (h : SchemaObject.Inside x s.toObject) :
    ∃ node, Inside node s ∧ (x = node.toObject ∨
      ∃ target, node.target? = some target ∧ x = { ref := some (componentRef target) }) := by
  generalize hy : s.toObject = y at h
  induction h generalizing s with
  | self => exact ⟨s, .self, Or.inl hy.symm⟩
  | part hp hin ih =>
    subst hy
    cases ht : s.target? with
    | none =>
      rw [parts_toObject ht] at hp
      obtain ⟨p, hpart, rfl⟩ := List.mem_map.1 hp
      obtain ⟨node, hnode, hx⟩ := ih rfl
      exact ⟨node, .part hpart hnode, hx⟩
    | some target =>
      obtain rfl := eq_of_mem_parts_reference ht hp
      refine ⟨s, .self, Or.inr ⟨target, ht, ?_⟩⟩
      -- nothing stands in a bare reference
      cases hin with
      | self => rfl
      | part hp _ => cases hp

/-- A keyword `$ref` has no other keyword beside it. -/
theorem eq_bare_of_ref {text : String} (h : SchemaObject.Inside x s.toObject)
    (hx : x.ref = some text) : x = { ref := some text } := by
  obtain ⟨node, -, rfl | ⟨target, -, rfl⟩⟩ := exists_node_of_inside_toObject h
  · cases ht : node.target? with
    | none =>
      rw [toObject_eq_keywords ht] at hx
      cases hx
    | some target =>
      rw [toObject_eq_reference ht] at hx ⊢
      split at hx
      · cases hx
      · next hplain =>
        obtain rfl := Option.some.inj hx
        rw [if_neg hplain]
  · obtain rfl := Option.some.inj hx
    rfl

end Schema

theorem SchemaObject.encode_bare (text : String) :
    ({ ref := some text } : SchemaObject).encode = .obj [("$ref", .str text)] := by
  rfl

/-- Wherever a schema object of a statement has a reference, this is all that it says and all that
is written for it. Everything that stands in a schema is stated in its object, with description and
marks, and nothing else is stated but bare references. A reference with such attributes is composed
of the bare reference alone, and the object of any other schema has for each keyword what the schema
has, in the same order, and nothing else. -/
theorem attributes_stated (s : Schema) :
    (∀ x text, SchemaObject.Inside x s.toObject → x.ref = some text →
      x = { ref := some text } ∧ x.encode = .obj [("$ref", .str text)]) ∧
    (∀ node, Schema.Inside node s → SchemaObject.Inside node.toObject s.toObject ∧
      node.toObject.description = node.description ∧
      node.toObject.deprecated = (if node.deprecated then some true else none) ∧
      node.toObject.readOnly = (if node.access = some .readOnly then some true else none) ∧
      node.toObject.writeOnly = (if node.access = some .writeOnly then some true else none)) ∧
    (∀ x, SchemaObject.Inside x s.toObject → ∃ node, Schema.Inside node s ∧
      (x = node.toObject ∨
        ∃ target, node.target? = some target ∧
          x = { ref := some ("#/components/schemas/" ++ target) })) ∧
    (∀ target, s.target? = some target → s.toObject =
      if s.IsAnnotated then {
        description := s.description
        allOf := [{ ref := some ("#/components/schemas/" ++ target) }]
        deprecated := if s.deprecated then some true else none
        readOnly := if s.access = some .readOnly then some true else none
        writeOnly := if s.access = some .writeOnly then some true else none }
      else { ref := some ("#/components/schemas/" ++ target) }) ∧
    (s.target? = none → s.toObject = {
      type := s.typeName?
      format := s.format?
      description := s.description
      properties := s.properties.mapValues Schema.toObject
      required := s.required
      additionalProperties := s.values?.map Schema.toObject
      items := s.items?.map Schema.toObject
      constants := s.constants.map .str
      allOf := s.allOf.map Schema.toObject
      oneOf := s.oneOf.map Schema.toObject
      discriminator := s.discriminator?.map fun d =>
        ⟨d.property, d.mapping.mapValues fun name => "#/components/schemas/" ++ name⟩
      discriminatorValue := s.asComposed?.bind (·.value)
      minimum := s.asNumber?.bind (·.minimum)
      maximum := s.asNumber?.bind (·.maximum)
      minLength := s.asString?.bind (·.minLength)
      maxLength := s.asString?.bind (·.maxLength)
      minItems := s.asArray?.bind (·.minItems)
      maxItems := s.asArray?.bind (·.maxItems)
      pattern := s.asString?.bind (·.pattern)
      deprecated := if s.deprecated then some true else none
      readOnly := if s.access = some .readOnly then some true else none
      writeOnly := if s.access = some .writeOnly then some true else none }) := by
  refine ⟨fun x text hin hx => ?_, fun node hin => ?_,
    fun x hin => Schema.exists_node_of_inside_toObject hin,
    fun target ht => Schema.toObject_eq_reference ht, fun ht => Schema.toObject_eq_keywords ht⟩
  · obtain rfl := Schema.eq_bare_of_ref hin hx
    exact ⟨rfl, SchemaObject.encode_bare text⟩
  · exact ⟨Schema.inside_toObject hin, node.annotations_toObject⟩

/-- The owner of some land, who is only shown and will be left out. -/
def deedOwner : Schema where
  shape := .reference "Person"
  description := some "The owner of the land"
  deprecated := true
  access := some .readOnly

/-- A code that is only given. -/
def deedCode : Schema where
  shape := .string { maxLength := some 12 }
  access := some .writeOnly

/-- An object with references at several depths. -/
def deedSchema : Schema :=
  .object {
    properties := [
      ("owner", deedOwner), ("code", deedCode), ("parcels", .array (.reference "Parcel"))]
    required := ["owner"] }

/-- The marks of the reference stand on the composition of the bare reference, those of the code on
the text, and a schema without marks has none. -/
theorem attributes_stated_deed :
    Schema.Inside deedOwner deedSchema ∧
    SchemaObject.Inside deedOwner.toObject deedSchema.toObject ∧
    deedOwner.toObject = {
      description := some "The owner of the land"
      allOf := [{ ref := some "#/components/schemas/Person" }]
      deprecated := some true
      readOnly := some true } ∧
    Schema.Inside deedCode deedSchema ∧
    deedCode.toObject =
      { type := some "string", maxLength := some 12, writeOnly := some true } ∧
    deedCode.toObject.deprecated = none ∧ deedCode.toObject.readOnly = none ∧
    (Schema.reference "Parcel").toObject.ref = some "#/components/schemas/Parcel" ∧
    (Schema.reference "Parcel").toObject.encode =
      .obj [("$ref", .str "#/components/schemas/Parcel")] ∧
    deedSchema.toObject.required = ["owner"] ∧ deedSchema.toObject.deprecated = none := by
  obtain ⟨hbare, hstated, -, -, hkeywords⟩ := attributes_stated deedSchema
  obtain ⟨-, -, -, howner, -⟩ := attributes_stated deedOwner
  obtain ⟨-, -, -, -, hcode⟩ := attributes_stated deedCode
  have hinside : ∀ p ∈ [deedOwner, deedCode, .array (.reference "Parcel")],
      Schema.Inside p deedSchema := fun p hp => .part hp .self
  have howns : Schema.Inside deedOwner deedSchema := hinside _ (by simp)
  have hcodes : Schema.Inside deedCode deedSchema := hinside _ (by simp)
  have hitems : Schema.Inside (.reference "Parcel") (.array (.reference "Parcel")) :=
    .part (List.mem_singleton_self (Schema.reference "Parcel")) .self
  have hparcel : Schema.Inside (.reference "Parcel") deedSchema :=
    .part (show Schema.array (.reference "Parcel") ∈
      [deedOwner, deedCode, .array (.reference "Parcel")] by simp) hitems
  have href : (Schema.reference "Parcel").toObject.ref = some "#/components/schemas/Parcel" := by
    decide +kernel
  have hannotated : deedOwner.IsAnnotated := Or.inl (by decide)
  obtain ⟨-, -, hdeprecated, hshown, -⟩ := hstated _ hcodes
  refine ⟨howns, (hstated _ howns).1, ?_, hcodes, ?_, hdeprecated, hshown, href,
    (hbare _ _ (hstated _ hparcel).1 href).2, ?_, ?_⟩
  · rw [howner "Person" rfl, if_pos hannotated]
    rfl
  · rw [hcode rfl]
    rfl
  · rw [hkeywords rfl]
    rfl
  · exact (hstated _ .self).2.2.1

end ApiContract
