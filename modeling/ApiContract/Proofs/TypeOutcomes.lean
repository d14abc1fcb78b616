import ApiContract.Proofs.Discriminators
import ApiContract.Proofs.NestedArrays
/-!
# Outcomes of value types

A value type is refused, has no schema, or has one, and which of these it is depends on the type
alone. It is refused if a container stands directly in a container; else its leaf decides. A schema
has one layer for each list, array and map of the type, from the outside, around the schema of the
leaf. Only the schema of a named leaf depends on the scope and on how bases are described.

* `Layer`, `TypeRef.schemaLayers` : what the wrappers of a type leave in its schema.
* `IsLeafSchema` : the schemas of types without wrappers, one rule for each.
* `result_map_isSome_schemaOf` : the outcome as a function of the type.
* `outcome_by_type` : what is refused, what has no schema, and what the other schemas are.
-/

namespace ApiContract

/-! ## Layers -/

/-- What a wrapper leaves in a schema: an array, or an object with arbitrary properties. -/
inductive Layer where
  | array
  | table
deriving DecidableEq, Repr

/-- Puts a layer around a schema. -/
def Layer.around : Layer → Schema → Schema
  | .array, s => .array s
  | .table, s => .tableOf s

namespace TypeRef

/-- The layer that the outermost wrapper of a type leaves. Envelopes leave none. -/
def layer? : TypeRef → Option Layer
  | .list _ => some .array
  | .array _ => some .array
  | .map _ => some .table
  | _ => none

/-- The layers that the wrappers of a type leave, from the outside. -/
def schemaLayers (t : TypeRef) : List Layer := t.layers.filterMap layer?

theorem wrap_eq (t : TypeRef) (s : Schema) : t.wrap s = t.schemaLayers.foldr Layer.around s := by
  induction t with
  | list element ih => exact congrArg Schema.array ih
  | array element ih => exact congrArg Schema.array ih
  | map value ih => exact congrArg Schema.tableOf ih
  | envelope inner ih => exact ih
  | _ => rfl

theorem nestsContainers_iff {t : TypeRef} :
    t.nestsContainers = true ↔ ∃ u ∈ t.layers, ∃ e, u.element? = some e ∧ e.isContainer = true := by
  rw [nestsContainers, List.any_eq_true]
  refine exists_congr fun u => and_congr_right fun _ => ?_
  rw [Option.any_eq_true]

theorem isDescribed_eq_false_iff {t : TypeRef} :
    t.isDescribed = false ↔ t.leaf = .void ∨ ∃ text, t.leaf = .foreign text := by
  rw [isDescribed]
  split
  · next h => simp [h]
  · next text h => simp [h]
  · next hvoid hforeign => simpa using ⟨hvoid, hforeign⟩

end TypeRef

/-! ## Leaves -/

/-- The schema of a type without wrappers. The variants of a primitive kind share one schema, and a
name stands for a component, for the subclasses of a base, or for an object of which nothing is
known. -/
inductive IsLeafSchema (scope : Scope) (style : ReferenceStyle) : TypeRef → Schema → Prop
  | primitive (kind : Primitive) (boxed : Bool) :
      IsLeafSchema scope style (.primitive kind boxed) kind.schema
  | date : IsLeafSchema scope style .date (.formatted "date")
  | dateTime : IsLeafSchema scope style .dateTime (.formatted "date-time")
  | uuid : IsLeafSchema scope style .uuid (.formatted "uuid")
  | file : IsLeafSchema scope style .file .binary
  | unknown {name : String} (h : scope.component? name = none) :
      IsLeafSchema scope style (.named name) .genericObject
  | base {name : String} {u : TypeDescriptor} {b : PolymorphicBase}
      (h : scope.component? name = some u) (hs : style = .polymorphic)
      (hb : scope.polymorphicBase? name = some b) :
      IsLeafSchema scope style (.named name) b.alternatives
  | component {name : String} {u : TypeDescriptor} (h : scope.component? name = some u)
      (hb : style = .direct ∨ scope.polymorphicBase? name = none) :
      IsLeafSchema scope style (.named name) (.reference u.simpleName)

variable {scope : Scope} {style : ReferenceStyle}

theorem isLeafSchema_named_iff {name : String} {s : Schema} :
    IsLeafSchema scope style (.named name) s ↔ namedNode scope style name = s := by
  rw [namedNode]
  constructor
  · intro h
    cases h with
    | unknown h => rw [h]
    | base h hs hb => rw [h, hs, hb]
    | component h hb =>
      rw [h]
      rcases hb with rfl | hb
      · rfl
      · rw [hb]
        cases style <;> rfl
  · rintro rfl
    cases hc : scope.component? name with
    | none => exact .unknown hc
    | some u =>
      cases hs : style with
      | direct => exact .component hc (Or.inl rfl)
      | polymorphic =>
        cases hb : scope.polymorphicBase? name with
        | none => exact .component hc (Or.inr hb)
        | some b => exact .base hc rfl hb

theorem isLeafSchema_iff {t : TypeRef} {s : Schema} :
    IsLeafSchema scope style t s ↔ leafNode? scope style t = some s := by
  cases t with
  | named name => rw [isLeafSchema_named_iff, leafNode?, Option.some.injEq]
  | primitive kind boxed | date | dateTime | uuid | file =>
    constructor
    · intro h
      cases h
      rfl
    · intro h
      obtain rfl := Option.some.inj h
      constructor
  | _ =>
    constructor
    · intro h
      cases h
    · intro h
      cases h

theorem exists_isLeafSchema_iff {t : TypeRef} :
    (∃ s, IsLeafSchema scope style t.leaf s) ↔ t.isDescribed = true := by
  simp only [isLeafSchema_iff]
  rw [← Option.isSome_iff_exists, leafNode?_isSome]

/-! ## Outcomes -/

/-- Whether a type has a schema, and the fault if it is refused, in terms of the type alone. -/
theorem result_map_isSome_schemaOf (scope : Scope) (style : ReferenceStyle) (t : TypeRef) :
    (schemaOf scope style t).result.map Option.isSome = match t.nested? with
      | some u => .error (.unsupportedShape (.nestedContainers u))
      | none => .ok t.isDescribed := by
  rw [result_schemaOf, ← schema?_isSome scope style]
  cases t.nested? with
  | some u => rfl
  | none => rfl

theorem result_schemaOf_eq_none_iff {t : TypeRef} :
    (schemaOf scope style t).result = .ok none ↔
      t.nestsContainers = false ∧ t.isDescribed = false := by
  rw [result_schemaOf_eq_ok, TypeRef.nested?_eq_none_iff, ← schema?_isSome scope style,
    Option.isSome_eq_false_iff, Option.isNone_iff_eq_none, eq_comm (a := none)]

theorem result_schemaOf_eq_some_iff {t : TypeRef} {node : Schema} :
    (schemaOf scope style t).result = .ok (some node) ↔
      t.nestsContainers = false ∧ ∃ leaf, IsLeafSchema scope style t.leaf leaf ∧
        node = t.schemaLayers.foldr Layer.around leaf := by
  rw [result_schemaOf_eq_ok, TypeRef.nested?_eq_none_iff, schema?, eq_comm (a := some node),
    Option.map_eq_some_iff]
  simp only [isLeafSchema_iff, TypeRef.wrap_eq, eq_comm (a := node)]

/-- Envelopes leave nothing in a schema, and may stand between a map and a list. -/
example : (TypeRef.map (.envelope (.list .date))).schemaLayers = [.table, .array] := rfl

end ApiContract
