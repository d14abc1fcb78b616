import ApiContract.Component.FieldSchema
/-!
# What directives leave alone

The directives of a field or a parameter write bounds, sizes, patterns, descriptions and marks. The
*contents* of a schema are its kind with everything nested in it, and without these attributes.

* `contents_applyTo` : directives keep the contents.
* `references_congr`, `asComposed?_congr`, … : whatever is read off the contents is kept with them.
* `Schema.Within` : the schemas inside a schema that are reached through arrays and tables.
-/

namespace ApiContract
namespace Schema

/-- The kind of a schema with the schemas nested in it, without bounds, sizes and patterns. -/
def contents (s : Schema) : Shape Schema :=
  match s.shape with
  | .string t => .string { format := t.format }
  | .number n => .number { numericType := n.numericType, format := n.format }
  | .array a => .array { items := a.items }
  | shape => shape

/-- The items of an array. -/
def items? (s : Schema) : Option Schema := s.asArray?.map (·.items)

/-- The schema of all properties of a table that are not described one by one. -/
def values? (s : Schema) : Option Schema := s.asObject?.bind (·.additional)

/-! ## Directives keep the contents -/

theorem contents_directive (d : Directive) (s : Schema) : (d.applyTo s).contents = s.contents := by
  obtain ⟨shape, description, deprecated, access⟩ := s
  cases d <;> cases shape <;> rfl

/-- Directives keep the contents of a schema. -/
theorem contents_applyTo (ds : Directives) (s : Schema) :
    (Directives.applyTo ds s).contents = s.contents := by
  induction ds generalizing s with
  | nil => rfl
  | cons d rest ih =>
    show (Directives.applyTo rest (d.applyTo s)).contents = s.contents
    rw [ih, contents_directive]

theorem shape_applyToType (ds : Directives) (s : Schema) : (ds.applyToType s).shape = s.shape := rfl

theorem contents_congr {s s' : Schema} (h : s.shape = s'.shape) : s.contents = s'.contents := by
  rw [contents, contents, h]

/-! ## What the contents determine -/

theorem references_eq (s : Schema) : s.references = (ofShape s.contents).references := by
  obtain ⟨shape, description, deprecated, access⟩ := s
  cases shape <;> simp [ofShape, contents, references]

variable {s s' : Schema}

theorem references_congr (h : s.contents = s'.contents) : s.references = s'.references := by
  rw [references_eq s, references_eq s', h]

theorem references_of_shape (h : s.shape = s'.shape) : s.references = s'.references :=
  references_congr (contents_congr h)

theorem references_applyTo (ds : Directives) (s : Schema) :
    (Directives.applyTo ds s).references = s.references := references_congr (contents_applyTo ds s)

theorem asObject?_eq (s : Schema) : s.asObject? = (ofShape s.contents).asObject? := by
  obtain ⟨shape, description, deprecated, access⟩ := s
  cases shape <;> rfl

theorem asObject?_congr (h : s.contents = s'.contents) : s.asObject? = s'.asObject? := by
  rw [asObject?_eq s, asObject?_eq s', h]

theorem asComposed?_eq (s : Schema) : s.asComposed? = (ofShape s.contents).asComposed? := by
  obtain ⟨shape, description, deprecated, access⟩ := s
  cases shape <;> rfl

theorem asComposed?_congr (h : s.contents = s'.contents) : s.asComposed? = s'.asComposed? := by
  rw [asComposed?_eq s, asComposed?_eq s', h]

theorem target?_eq (s : Schema) : s.target? = (ofShape s.contents).target? := by
  obtain ⟨shape, description, deprecated, access⟩ := s
  cases shape <;> rfl

theorem target?_congr (h : s.contents = s'.contents) : s.target? = s'.target? := by
  rw [target?_eq s, target?_eq s', h]

theorem items?_eq (s : Schema) : s.items? = (ofShape s.contents).items? := by
  obtain ⟨shape, description, deprecated, access⟩ := s
  cases shape <;> rfl

theorem items?_congr (h : s.contents = s'.contents) : s.items? = s'.items? := by
  rw [items?_eq s, items?_eq s', h]

theorem values?_congr (h : s.contents = s'.contents) : s.values? = s'.values? := by
  rw [values?, values?, asObject?_congr h]

/-! ## Schemas inside a schema -/

/-- A schema stands in another one, as the whole of it or inside arrays and tables. -/
inductive Within (node : Schema) : Schema → Prop
  | self : Within node node
  | items {s i : Schema} (h : s.items? = some i) : Within node i → Within node s
  | values {s v : Schema} (h : s.values? = some v) : Within node v → Within node s

/-- What stands in a schema is the schema itself or stands in one with the same contents. -/
theorem Within.of_contents {node : Schema} (h : s.contents = s'.contents) (hw : Within node s) :
    node = s ∨ Within node s' := by
  cases hw with
  | self => exact Or.inl rfl
  | items hi hin => exact Or.inr (.items (items?_congr h ▸ hi) hin)
  | values hv hin => exact Or.inr (.values (values?_congr h ▸ hv) hin)

end Schema
end ApiContract
