import ApiContract.Component.ValueSchema
import ApiContract.Proofs.Contents
import ApiContract.Proofs.Outcome
/-!
# Schemas of value types, layer by layer

A value type is a leaf inside wrappers. Its schema is the schema of the leaf inside one array for
each list or array and one table for each map; envelopes leave nothing. There is no schema if the
leaf has none, and the only fault is a list or array directly inside a list or array.

* `TypeRef.leaf`, `TypeRef.wrap`, `TypeRef.nested?` : the leaf, the wrappers, and the fault.
* `schema?` : the schema of a value type as a function of leaf and wrappers.
* `result_schemaOf` : this is what `schemaOf` gives.
* `TypeRef.innermost?` : the schema at the place of the leaf.
-/

namespace ApiContract

namespace TypeRef

/-- The type inside all wrappers. -/
def leaf : TypeRef → TypeRef
  | .list element => leaf element
  | .array element => leaf element
  | .map value => leaf value
  | .envelope inner => leaf inner
  | t => t

/-- Puts the wrappers of a type around the schema of its leaf. -/
def wrap : TypeRef → Schema → Schema
  | .list element, s => .array (wrap element s)
  | .array element, s => .array (wrap element s)
  | .map value, s => .tableOf (wrap value s)
  | .envelope inner, s => wrap inner s
  | _, s => s

/-- The outermost list or array that has lists or arrays as its elements. -/
def nested? : TypeRef → Option TypeRef
  | .list element => if element.isContainer then some (.list element) else nested? element
  | .array element => if element.isContainer then some (.array element) else nested? element
  | .map value => nested? value
  | .envelope inner => nested? inner
  | _ => none

/-- The schema at the place of the leaf. -/
def innermost? : TypeRef → Schema → Option Schema
  | .list element, s => s.items?.bind (innermost? element)
  | .array element, s => s.items?.bind (innermost? element)
  | .map value, s => s.values?.bind (innermost? value)
  | .envelope inner, s => innermost? inner s
  | _, s => some s

end TypeRef

variable {scope : Scope} {style : ReferenceStyle}

/-! ## The schema as a function -/

/-- The schema of a named type, as a value. -/
def namedNode (scope : Scope) (style : ReferenceStyle) (name : String) : Schema :=
  match scope.component? name with
  | none => .genericObject
  | some type =>
    match style, scope.polymorphicBase? name with
    | .polymorphic, some base => base.alternatives
    | _, _ => .reference type.simpleName

/-- The schema of a type without wrappers, if it has one. -/
def leafNode? (scope : Scope) (style : ReferenceStyle) : TypeRef → Option Schema
  | .primitive kind _ => some kind.schema
  | .date => some (.formatted "date")
  | .dateTime => some (.formatted "date-time")
  | .uuid => some (.formatted "uuid")
  | .file => some .binary
  | .named name => some (namedNode scope style name)
  | _ => none

/-- The schema of a value type without nested containers, if it has one. -/
def schema? (scope : Scope) (style : ReferenceStyle) (t : TypeRef) : Option Schema :=
  (leafNode? scope style t.leaf).map t.wrap

theorem result_namedSchema (scope : Scope) (style : ReferenceStyle) (name : String) :
    (namedSchema scope style name).result = .ok (namedNode scope style name) := by
  rw [namedSchema, namedNode]
  cases scope.component? name with
  | none => rfl
  | some type =>
    cases style with
    | direct => rfl
    | polymorphic =>
      cases scope.polymorphicBase? name with
      | none => rfl
      | some base => rfl

/-- The outcome for a list or an array, from the one for its elements. -/
theorem result_containerSchema (type element : TypeRef) {items : Traced (Option Schema)}
    (h : items.result = match element.nested? with
      | some u => .error (.unsupportedShape (.nestedContainers u))
      | none => .ok (schema? scope style element)) :
    (containerSchema type element items).result =
      match (if element.isContainer then some type else element.nested?) with
      | some u => .error (.unsupportedShape (.nestedContainers u))
      | none => .ok ((schema? scope style element).map .array) := by
  rw [containerSchema]
  cases hc : element.isContainer with
  | true => rfl
  | false =>
    simp only [Bool.false_eq_true, if_false]
    cases hn : element.nested? with
    | some u =>
      rw [hn] at h
      exact Traced.result_bind_of_error h _
    | none =>
      rw [hn] at h
      rw [Traced.result_bind_of_ok h]
      rfl

/-- The schema of a value type is the schema of its leaf inside its wrappers, and the only fault is
a list or array directly inside a list or array. -/
theorem result_schemaOf (scope : Scope) (style : ReferenceStyle) (t : TypeRef) :
    (schemaOf scope style t).result = match t.nested? with
      | some u => .error (.unsupportedShape (.nestedContainers u))
      | none => .ok (schema? scope style t) := by
  induction t with
  | primitive kind boxed => rfl
  | date => rfl
  | dateTime => rfl
  | uuid => rfl
  | file => rfl
  | void => rfl
  | foreign text => rfl
  | named name =>
    rw [schemaOf, Traced.result_bind_of_ok (result_namedSchema scope style name)]
    rfl
  | list element ih =>
    rw [schemaOf, result_containerSchema (.list element) element ih, TypeRef.nested?]
    simp only [schema?, Option.map_map, TypeRef.leaf]
    rfl
  | array element ih =>
    rw [schemaOf, result_containerSchema (.array element) element ih, TypeRef.nested?]
    simp only [schema?, Option.map_map, TypeRef.leaf]
    rfl
  | map value ih =>
    rw [schemaOf, TypeRef.nested?]
    cases hn : value.nested? with
    | some u =>
      rw [hn] at ih
      exact Traced.result_bind_of_error ih _
    | none =>
      rw [hn] at ih
      rw [Traced.result_bind_of_ok ih]
      simp only [schema?, TypeRef.leaf]
      rw [Traced.result_pure, Option.map_map]
      rfl
  | envelope inner ih => exact ih

theorem result_schemaOf_eq_ok {t : TypeRef} {r : Option Schema} :
    (schemaOf scope style t).result = .ok r ↔ t.nested? = none ∧ r = schema? scope style t := by
  rw [result_schemaOf]
  cases t.nested? with
  | some u => simp
  | none => simp [eq_comm]

theorem result_schemaOf_eq_error {t : TypeRef} {fault : Fault} :
    (schemaOf scope style t).result = .error fault ↔
      ∃ u, t.nested? = some u ∧ fault = .unsupportedShape (.nestedContainers u) := by
  rw [result_schemaOf]
  cases t.nested? with
  | some u => simp [eq_comm]
  | none => simp

/-! ## The place of the leaf -/

namespace TypeRef

theorem innermost?_wrap (t : TypeRef) (s : Schema) : t.innermost? (t.wrap s) = some s := by
  induction t with
  | list element ih => exact ih
  | array element ih => exact ih
  | map value ih => exact ih
  | envelope inner ih => exact ih
  | _ => rfl

/-- At the place of the leaf stands the schema of the leaf, refined by the directives if there are no
arrays or tables around it. -/
theorem innermost?_applyTo_wrap (t : TypeRef) (ds : Directives) (s : Schema) :
    ∃ node, t.innermost? (Directives.applyTo ds (t.wrap s)) = some node ∧
      (node = s ∨ node = Directives.applyTo ds s) := by
  induction t with
  | list element ih =>
    refine ⟨s, ?_, Or.inl rfl⟩
    rw [innermost?, Schema.items?_congr (Schema.contents_applyTo ds _)]
    exact innermost?_wrap element s
  | array element ih =>
    refine ⟨s, ?_, Or.inl rfl⟩
    rw [innermost?, Schema.items?_congr (Schema.contents_applyTo ds _)]
    exact innermost?_wrap element s
  | map value ih =>
    refine ⟨s, ?_, Or.inl rfl⟩
    rw [innermost?, Schema.values?_congr (Schema.contents_applyTo ds _)]
    exact innermost?_wrap value s
  | envelope inner ih => exact ih
  | _ => exact ⟨Directives.applyTo ds s, rfl, Or.inr rfl⟩

theorem references_wrap (t : TypeRef) (s : Schema) : (t.wrap s).references = s.references := by
  induction t with
  | list element ih => rw [wrap, Schema.array, Schema.ofShape, Schema.references, ih]
  | array element ih => rw [wrap, Schema.array, Schema.ofShape, Schema.references, ih]
  | map value ih =>
    rw [wrap, Schema.tableOf, Schema.object, Schema.ofShape, Schema.references,
      Schema.referencesOfProperties, Schema.referencesOfOption, Schema.mappedComponents, ih]
    simp
  | envelope inner ih => exact ih
  | _ => rfl

end TypeRef

end ApiContract
