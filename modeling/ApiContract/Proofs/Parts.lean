import ApiContract.Proofs.ClassObject
/-!
# The parts of a schema

Schemas stand in schemas: the items of an array, the alternatives of a composition, the properties
of an object. Much of what is said of a schema is said of everything that stands in it.

* `Schema.parts`, `Schema.Inside` : what stands directly in a schema, and what stands in it at any
  depth.
* `Schema.parts_induction` : induction on the parts.
* `Schema.Everywhere` : something holds of a schema and of all that stands in it.
* `Schema.everywhere_iff` : this is shown part by part.
* `TypeRef.everywhere_wrap` : the wrappers of a type are looked at once for all types.
* `Schema.IsUndivided` : a schema is no composition and has no discriminator.
* `leafNode?_cases` : the leaf of a type has no parts, unless it is a choice between subclasses.
* `isNoRecord_field` : in the schema of a field nothing is an object with properties.
-/

namespace ApiContract
namespace Schema

/-- The schemas that stand directly in a schema. -/
def parts (s : Schema) : List Schema :=
  match s.shape with
  | .array a => [a.items]
  | .composed c => c.allOf ++ c.oneOf
  | .object o => Assoc.values o.properties ++ o.additional.toList
  | _ => []

/-- A schema stands anywhere in another one. -/
inductive Inside (node : Schema) : Schema → Prop
  | self : Inside node node
  | part {s p : Schema} (hp : p ∈ s.parts) : Inside node p → Inside node s

/-- Something holds of a schema and of every schema that stands in it. -/
def Everywhere (P : Schema → Prop) (s : Schema) : Prop := ∀ node, Inside node s → P node

variable {s s' : Schema} {P : Schema → Prop}

theorem parts_eq (s : Schema) : s.parts = (ofShape s.contents).parts := by
  obtain ⟨shape, description, deprecated, access⟩ := s
  cases shape <;> rfl

theorem parts_congr (h : s.contents = s'.contents) : s.parts = s'.parts := by
  rw [parts_eq s, parts_eq s', h]

/-! ## Induction on the parts -/

theorem sizeOf_lt_of_mem_parts {p : Schema} (h : p ∈ s.parts) : sizeOf p < sizeOf s := by
  obtain ⟨shape, description, deprecated, access⟩ := s
  cases shape with
  | array a =>
    obtain rfl := List.mem_singleton.1 h
    obtain ⟨items, least, greatest⟩ := a
    simp only [mk.sizeOf_spec, Shape.array.sizeOf_spec, ArrayShape.mk.sizeOf_spec]
    omega
  | composed c =>
    obtain ⟨allOf, oneOf, discriminator, value⟩ := c
    simp only [mk.sizeOf_spec, Shape.composed.sizeOf_spec, ComposedShape.mk.sizeOf_spec]
    rcases List.mem_append.1 h with h | h
    · have hlt : sizeOf p < sizeOf allOf := List.sizeOf_lt_of_mem h
      omega
    · have hlt : sizeOf p < sizeOf oneOf := List.sizeOf_lt_of_mem h
      omega
  | object o =>
    obtain ⟨properties, required, discriminator, additional⟩ := o
    simp only [mk.sizeOf_spec, Shape.object.sizeOf_spec, ObjectShape.mk.sizeOf_spec]
    rcases List.mem_append.1 h with h | h
    · obtain ⟨⟨name, p⟩, hmem, rfl⟩ := List.mem_map.1 h
      have hlt : sizeOf (name, p) < sizeOf properties := List.sizeOf_lt_of_mem hmem
      rw [Prod.mk.sizeOf_spec] at hlt
      show sizeOf p < _
      omega
    · obtain rfl := Option.mem_toList.1 h
      simp only [Option.some.sizeOf_spec]
      omega
  | _ => cases h

/-- What holds of a schema as soon as it holds of its parts holds of all schemas. -/
theorem parts_induction {motive : Schema → Prop}
    (step : ∀ s : Schema, (∀ p ∈ s.parts, motive p) → motive s) (s : Schema) : motive s :=
  step s fun p _ => parts_induction step p
termination_by sizeOf s
decreasing_by exact sizeOf_lt_of_mem_parts ‹_›

/-! ## What holds everywhere -/

theorem everywhere_iff : s.Everywhere P ↔ P s ∧ ∀ p ∈ s.parts, p.Everywhere P := by
  constructor
  · exact fun h => ⟨h s .self, fun p hp node hin => h node (.part hp hin)⟩
  · rintro ⟨hself, hparts⟩ node hin
    cases hin with
    | self => exact hself
    | part hp hin => exact hparts _ hp node hin

theorem Everywhere.of_self (h : s.Everywhere P) : P s := h s .self

theorem Everywhere.mono {Q : Schema → Prop} (h : s.Everywhere P) (hle : ∀ s, P s → Q s) :
    s.Everywhere Q := fun node hin => hle node (h node hin)

theorem Everywhere.of_inside (h : s.Everywhere P) (hin : Inside s' s) : s'.Everywhere P := by
  induction hin with
  | self => exact h
  | part hp _ ih => exact ih ((everywhere_iff.1 h).2 _ hp)

/-- A schema with the same contents has the same parts, so only the schema itself is looked at. -/
theorem Everywhere.congr (h : s.Everywhere P) (hc : s'.contents = s.contents) (hs : P s') :
    s'.Everywhere P := by
  refine everywhere_iff.2 ⟨hs, fun p hp => ?_⟩
  rw [parts_congr hc] at hp
  exact (everywhere_iff.1 h).2 p hp

theorem everywhere_of_parts_eq_nil (hs : P s) (h : s.parts = []) : s.Everywhere P :=
  everywhere_iff.2 ⟨hs, by simp [h]⟩

theorem Everywhere.array (h : s.Everywhere P) (hs : P (.array s)) :
    (Schema.array s).Everywhere P := by
  refine everywhere_iff.2 ⟨hs, fun p hp => ?_⟩
  obtain rfl := List.mem_singleton.1 hp
  exact h

theorem Everywhere.tableOf (h : s.Everywhere P) (hs : P (.tableOf s)) :
    (Schema.tableOf s).Everywhere P := by
  refine everywhere_iff.2 ⟨hs, fun p hp => ?_⟩
  obtain rfl := List.mem_singleton.1 hp
  exact h

end Schema

namespace TypeRef

variable {s : Schema} {P : Schema → Prop}

/-- What holds everywhere in the schema of the leaf holds everywhere in the schema of the type, if it
holds of all arrays and tables. -/
theorem everywhere_wrap (harray : ∀ i, P (.array i)) (htable : ∀ v, P (.tableOf v)) (t : TypeRef)
    (hs : s.Everywhere P) : (t.wrap s).Everywhere P := by
  induction t with
  | list element ih | array element ih => exact ih.array (harray _)
  | map value ih => exact ih.tableOf (htable _)
  | envelope inner ih => exact ih
  | _ => exact hs

end TypeRef

/-! ## What stands in the schema of a type -/

namespace Schema

/-- The discriminator of a composition or an object. -/
def discriminator? (s : Schema) : Option Discriminator :=
  match s.shape with
  | .composed c => c.discriminator
  | .object o => o.discriminator
  | _ => none

/-- A schema is no composition, so it has no alternatives, and has no discriminator. -/
structure IsUndivided (s : Schema) : Prop where
  not_composed : s.asComposed? = none
  no_discriminator : s.discriminator? = none

/-- A schema is no object, or an object that names no properties. -/
def IsNoRecord (s : Schema) : Prop :=
  ∀ o, s.asObject? = some o → o.properties = [] ∧ o.required = []

variable {s s' : Schema}

theorem discriminator?_congr (h : s.contents = s'.contents) :
    s.discriminator? = s'.discriminator? := by
  have heq : ∀ s : Schema, s.discriminator? = (ofShape s.contents).discriminator? := by
    rintro ⟨shape, description, deprecated, access⟩
    cases shape <;> rfl
  rw [heq s, heq s', h]

theorem IsUndivided.congr (h : s.IsUndivided) (hc : s'.contents = s.contents) :
    s'.IsUndivided where
  not_composed := (asComposed?_congr hc).trans h.not_composed
  no_discriminator := (discriminator?_congr hc).trans h.no_discriminator

theorem isUndivided_array (i : Schema) : (array i).IsUndivided := ⟨rfl, rfl⟩

theorem isUndivided_tableOf (v : Schema) : (tableOf v).IsUndivided := ⟨rfl, rfl⟩

theorem isNoRecord_of_asObject? (h : s.asObject? = none) : s.IsNoRecord := by
  intro o ho
  cases h.symm.trans ho

theorem everywhere_isNoRecord (hparts : s.parts = []) (h : s.asObject? = none) :
    s.Everywhere IsNoRecord :=
  everywhere_of_parts_eq_nil (isNoRecord_of_asObject? h) hparts

end Schema

variable {scope : Scope} {style : ReferenceStyle}

/-- The leaf of a type has no parts, unless it is a base that is described by its subclasses. -/
theorem leafNode?_cases {t : TypeRef} {s : Schema} (h : leafNode? scope style t = some s) :
    (s.parts = [] ∧ s.asObject? = none ∧ s.IsUndivided) ∨
      (style = .polymorphic ∧ ∃ b : PolymorphicBase, s = b.alternatives) := by
  cases t with
  | primitive kind boxed =>
    obtain rfl := Option.some.inj h
    cases kind <;> exact Or.inl ⟨rfl, rfl, rfl, rfl⟩
  | date | dateTime | uuid | file =>
    obtain rfl := Option.some.inj h
    exact Or.inl ⟨rfl, rfl, rfl, rfl⟩
  | named name =>
    obtain rfl := Option.some.inj h
    rw [namedNode]
    cases scope.component? name with
    | none => exact Or.inl ⟨rfl, rfl, rfl, rfl⟩
    | some u =>
      cases style with
      | direct => exact Or.inl ⟨rfl, rfl, rfl, rfl⟩
      | polymorphic =>
        cases scope.polymorphicBase? name with
        | none => exact Or.inl ⟨rfl, rfl, rfl, rfl⟩
        | some b => exact Or.inr ⟨rfl, b, rfl⟩
  | _ => cases h

theorem isNoRecord_alternatives (b : PolymorphicBase) :
    b.alternatives.Everywhere Schema.IsNoRecord := by
  refine Schema.everywhere_iff.2 ⟨Schema.isNoRecord_of_asObject? rfl, fun p hp => ?_⟩
  obtain ⟨target, -, rfl⟩ := List.mem_map.1 hp
  exact Schema.everywhere_isNoRecord rfl rfl

/-- Types lead to tables, but not to objects with properties. -/
theorem isNoRecord_schema? {t : TypeRef} {s : Schema} (hs : schema? scope style t = some s) :
    s.Everywhere Schema.IsNoRecord := by
  obtain ⟨leaf, hleaf, rfl⟩ := Option.map_eq_some_iff.1 hs
  have harray : ∀ i, (Schema.array i).IsNoRecord := fun i => Schema.isNoRecord_of_asObject? rfl
  have htable : ∀ v, (Schema.tableOf v).IsNoRecord := by
    intro v o ho
    obtain rfl := Option.some.inj ho
    exact ⟨rfl, rfl⟩
  refine TypeRef.everywhere_wrap harray htable t ?_
  rcases leafNode?_cases hleaf with ⟨hparts, hobject, -⟩ | ⟨-, b, rfl⟩
  · exact Schema.everywhere_isNoRecord hparts hobject
  · exact isNoRecord_alternatives b

theorem isNoRecord_field (f : FieldDescriptor) :
    (f.schema scope).Everywhere Schema.IsNoRecord := by
  have hplain : ((schema? scope .polymorphic f.type).getD .genericObject).Everywhere
      Schema.IsNoRecord := by
    cases hs : schema? scope .polymorphic f.type with
    | none => exact Schema.everywhere_isNoRecord rfl rfl
    | some s => exact isNoRecord_schema? hs
  have hkeep := Schema.contents_applyTo f.directives
    ((schema? scope .polymorphic f.type).getD .genericObject)
  exact hplain.congr hkeep fun o ho => hplain.of_self o ((Schema.asObject?_congr hkeep).symm.trans ho)

end ApiContract
