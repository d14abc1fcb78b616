import ApiContract.Component.Component
import ApiContract.Proofs.InsertedProperties
import ApiContract.Proofs.Interception
import ApiContract.Proofs.ValueSchema
/-!
# The object of a class

The fields of a class and of the superclasses that are copied into it become properties, one for
each name; of several fields with one name the last one counts. A field becomes a property if it is
not skipped and the leaf of its type has a schema.

* `fieldTable` : the fields that become properties, by name.
* `objectOf`, `classNode` : the object and the schema of a class as functions of its superclasses.
* `hookedObject` : the object of a class under interceptors.
* `result_componentOf_iff` : what `componentOf` gives under any interceptors.
* `result_componentOf_eq_ok` : without interceptors this is the schema of the class.
* `result_componentOf_error` : the faults of a component lie in its superclasses or in the type of a
  field.
* `properties_objectOf` : the properties are those of the table, and the discriminator property.
-/

namespace ApiContract

/-! ## Fields as properties -/

/-- Whether values of a type have a schema: all but those of `void` and of foreign types. -/
def TypeRef.isDescribed (t : TypeRef) : Bool :=
  match t.leaf with
  | .void => false
  | .foreign _ => false
  | _ => true

namespace FieldDescriptor

/-- Whether a field becomes a property. -/
def isMapped (f : FieldDescriptor) : Bool := !f.isSkipped && f.type.isDescribed

/-- Whether the property of a field is required. -/
def isRequired (f : FieldDescriptor) : Bool := f.type.neverAbsent || f.directives.isNotNull

/-- The schema of a field that becomes a property. -/
def schema (scope : Scope) (f : FieldDescriptor) : Schema :=
  f.directives.applyTo ((schema? scope .polymorphic f.type).getD .genericObject)

/-- A field has no list or array directly inside a list or array. -/
def IsPlain (f : FieldDescriptor) : Prop := f.isSkipped = false → f.type.nested? = none

end FieldDescriptor

/-- The fields that become properties, by name. -/
def fieldTable (fields : List FieldDescriptor) : Assoc String FieldDescriptor :=
  Assoc.ofPairs ((fields.filter (·.isMapped)).map fun f => (f.name, f))

/-- The fields of a class after those of the superclasses that are copied into it. -/
def declaredFields (flattened : List TypeDescriptor) (t : TypeDescriptor) :
    List FieldDescriptor :=
  flattened.reverse.flatMap (·.fields) ++ t.fields

/-- Adds the properties of some fields to an object. -/
def ObjectShape.insertFields (scope : Scope) (o : ObjectShape Schema)
    (fields : List FieldDescriptor) : ObjectShape Schema :=
  (fields.filter (·.isMapped)).foldl (fun o f => o.insertProperty f.name (f.schema scope)
    f.isRequired) o

/-- The object of a class. -/
def objectOf (scope : Scope) (flattened : List TypeDescriptor) (t : TypeDescriptor) :
    ObjectShape Schema :=
  let object := ObjectShape.insertFields scope {} (declaredFields flattened t)
  match scope.polymorphicBase? t.name with
  | some base => base.addTo object
  | none => object

/-- The schema of a class with some superclasses, before its own directives. -/
def classNode (scope : Scope) (t : TypeDescriptor) (ancestry : Ancestry) : Schema :=
  match ancestry.parent with
  | none => .object (objectOf scope ancestry.flattened t)
  | some parent =>
    .composed {
      allOf := [.reference parent.simpleName, .object (objectOf scope ancestry.flattened t)]
      value := subclassTag? scope t.name }

/-- The property of a field before the interceptors. -/
def FieldDescriptor.property (scope : Scope) (f : FieldDescriptor) : Property :=
  ⟨f.schema scope, f.isRequired⟩

/-- The properties of the fields of a type after the interceptors. -/
def hookedProperties (scope : Scope) (hooks : Hooks) (owner : TypeDescriptor)
    (fields : List FieldDescriptor) : List (String × Property) :=
  (fields.filter (·.isMapped)).map fun f =>
    (f.name, hooks.interceptField scope owner f (f.property scope))

/-- The properties of a class after the interceptors, those of the superclasses that are copied into
it first. -/
def classProperties (scope : Scope) (hooks : Hooks) (flattened : List TypeDescriptor)
    (t : TypeDescriptor) : List (String × Property) :=
  (flattened.reverse ++ [t]).flatMap fun owner => hookedProperties scope hooks owner owner.fields

/-- The object of a class under interceptors. -/
def hookedObject (scope : Scope) (hooks : Hooks) (flattened : List TypeDescriptor)
    (t : TypeDescriptor) : ObjectShape Schema :=
  let object := ObjectShape.insertAll {} (classProperties scope hooks flattened t)
  match scope.polymorphicBase? t.name with
  | some base => base.addTo object
  | none => object

/-- The schema of a class with an object and some superclasses. -/
def Ancestry.schemaWith (scope : Scope) (t : TypeDescriptor) (ancestry : Ancestry)
    (object : ObjectShape Schema) : Schema :=
  match ancestry.parent with
  | none => .object object
  | some parent =>
    .composed {
      allOf := [.reference parent.simpleName, .object object]
      value := subclassTag? scope t.name }

variable {scope : Scope} {hooks : Hooks}

theorem leafNode?_isSome (scope : Scope) (style : ReferenceStyle) (t : TypeRef) :
    (leafNode? scope style t.leaf).isSome = t.isDescribed := by
  rw [TypeRef.isDescribed]
  induction t with
  | list element ih => exact ih
  | array element ih => exact ih
  | map value ih => exact ih
  | envelope inner ih => exact ih
  | _ => rfl

theorem schema?_isSome (scope : Scope) (style : ReferenceStyle) (t : TypeRef) :
    (schema? scope style t).isSome = t.isDescribed := by
  rw [schema?, Option.isSome_map, leafNode?_isSome]

theorem insertFields_cons_of_mapped {o : ObjectShape Schema} {f : FieldDescriptor}
    (h : f.isMapped = true) (rest : List FieldDescriptor) :
    o.insertFields scope (f :: rest) =
      (o.insertProperty f.name (f.schema scope) f.isRequired).insertFields scope rest := by
  rw [ObjectShape.insertFields, List.filter_cons, if_pos h, List.foldl_cons]
  rfl

theorem insertFields_cons_of_not_mapped {o : ObjectShape Schema} {f : FieldDescriptor}
    (h : f.isMapped = false) (rest : List FieldDescriptor) :
    o.insertFields scope (f :: rest) = o.insertFields scope rest := by
  rw [ObjectShape.insertFields, List.filter_cons, h]
  rfl

/-- Fields are inserted as their properties are. -/
theorem insertFields_eq_insertAll (o : ObjectShape Schema) (fields : List FieldDescriptor) :
    o.insertFields scope fields =
      o.insertAll ((fields.filter (·.isMapped)).map fun f => (f.name, f.property scope)) := by
  rw [ObjectShape.insertAll, List.foldl_map]
  rfl

/-- Without interceptors the properties of a class are those of its fields. -/
theorem classProperties_eq (hz : hooks.interceptorCount = 0) (flattened : List TypeDescriptor)
    (t : TypeDescriptor) :
    classProperties scope hooks flattened t =
      ((declaredFields flattened t).filter (·.isMapped)).map fun f =>
        (f.name, f.property scope) := by
  simp only [classProperties, hookedProperties, Hooks.interceptField_eq hz, declaredFields,
    List.flatMap_append, List.flatMap_cons, List.flatMap_nil, List.append_nil, List.filter_append,
    List.filter_flatMap, List.map_append, List.map_flatMap]

theorem hookedObject_eq (hz : hooks.interceptorCount = 0) (flattened : List TypeDescriptor)
    (t : TypeDescriptor) : hookedObject scope hooks flattened t = objectOf scope flattened t := by
  rw [hookedObject, objectOf, classProperties_eq hz, insertFields_eq_insertAll]

theorem classNode_eq (t : TypeDescriptor) (ancestry : Ancestry) :
    classNode scope t ancestry =
      ancestry.schemaWith scope t (objectOf scope ancestry.flattened t) := by
  rw [classNode, Ancestry.schemaWith]

/-! ## What the steps give -/

theorem result_fieldProperty_eq_ok {owner : TypeDescriptor} {f : FieldDescriptor}
    {p : Option Property} :
    (fieldProperty scope hooks owner f).result = .ok p ↔
      f.type.nested? = none ∧
        p = if f.type.isDescribed then some (hooks.interceptField scope owner f (f.property scope))
          else none := by
  rw [fieldProperty, Traced.result_bind_eq_ok, FieldDescriptor.property]
  simp only [Traced.result_mapFault_eq_ok, result_schemaOf_eq_ok]
  rw [← schema?_isSome scope .polymorphic, FieldDescriptor.schema]
  constructor
  · rintro ⟨r, ⟨hn, rfl⟩, h⟩
    refine ⟨hn, ?_⟩
    cases hs : schema? scope .polymorphic f.type with
    | none =>
      rw [hs] at h
      exact (Except.ok.inj h).symm
    | some s =>
      rw [hs] at h
      exact (Except.ok.inj h).symm
  · rintro ⟨hn, rfl⟩
    refine ⟨_, ⟨hn, rfl⟩, ?_⟩
    cases hs : schema? scope .polymorphic f.type with
    | none => rfl
    | some s => rfl

theorem result_fieldProperty_error {owner : TypeDescriptor} {f : FieldDescriptor} {fault : Fault}
    (h : (fieldProperty scope hooks owner f).result = .error fault) :
    ∃ u, fault = .unsupportedShape (.inField owner.name f.name (.nestedContainers u)) := by
  rw [fieldProperty] at h
  rcases Traced.result_bind_eq_error.1 h with h | ⟨r, -, h⟩
  · rw [Traced.result_mapFault] at h
    cases hs : (schemaOf scope .polymorphic f.type).result with
    | ok s =>
      rw [hs] at h
      cases h
    | error inner =>
      obtain ⟨u, -, rfl⟩ := result_schemaOf_eq_error.1 hs
      rw [hs] at h
      exact ⟨u, (Except.error.inj h).symm⟩
  · cases r with
    | none => cases h
    | some s => cases h

theorem result_addFields_eq_ok {owner : TypeDescriptor} {o out : ObjectShape Schema}
    (fields : List FieldDescriptor) :
    (addFields scope hooks owner o fields).result = .ok out ↔
      (∀ f ∈ fields, f.IsPlain) ∧ out = o.insertAll (hookedProperties scope hooks owner fields) := by
  induction fields generalizing o with
  | nil =>
    rw [addFields, Traced.result_pure, Except.ok.injEq]
    simpa [hookedProperties] using eq_comm
  | cons f rest ih =>
    rw [addFields, List.forall_mem_cons, hookedProperties]
    cases hs : f.isSkipped with
    | true =>
      have hm : f.isMapped = false := by rw [FieldDescriptor.isMapped, hs]; rfl
      have hp : f.IsPlain := fun h => by rw [hs] at h; cases h
      rw [if_pos rfl, ih, List.filter_cons_of_neg (by simp [hm])]
      simp [hp, hookedProperties]
    | false =>
      have hp : f.IsPlain ↔ f.type.nested? = none := by simp [FieldDescriptor.IsPlain, hs]
      have hm : f.isMapped = f.type.isDescribed := by rw [FieldDescriptor.isMapped, hs]; rfl
      rw [if_neg (by decide), Traced.result_bind_eq_ok, hp]
      simp only [result_fieldProperty_eq_ok]
      cases hd : f.type.isDescribed with
      | true =>
        rw [List.filter_cons_of_pos (hm.trans hd)]
        simp [ih, and_assoc, hookedProperties]
      | false =>
        rw [List.filter_cons_of_neg (by simp [hm, hd])]
        simp [ih, and_assoc, hookedProperties]

theorem result_addFields_error {owner : TypeDescriptor} {o : ObjectShape Schema}
    {fields : List FieldDescriptor} {fault : Fault}
    (h : (addFields scope hooks owner o fields).result = .error fault) :
    ∃ field u, fault = .unsupportedShape (.inField owner.name field (.nestedContainers u)) := by
  induction fields generalizing o with
  | nil => cases h
  | cons f rest ih =>
    rw [addFields] at h
    split at h
    · exact ih h
    · rcases Traced.result_bind_eq_error.1 h with h | ⟨p, -, h⟩
      · obtain ⟨u, hu⟩ := result_fieldProperty_error h
        exact ⟨f.name, u, hu⟩
      · cases p with
        | none => exact ih h
        | some p => exact ih h

theorem result_flattenInto_eq_ok {type : String} {o out : ObjectShape Schema}
    (ancestors : List TypeDescriptor) :
    (flattenInto scope hooks type o ancestors).result = .ok out ↔
      (∀ f ∈ ancestors.flatMap (·.fields), f.IsPlain) ∧
        out = o.insertAll (ancestors.flatMap fun owner =>
          hookedProperties scope hooks owner owner.fields) := by
  induction ancestors generalizing o with
  | nil =>
    rw [flattenInto, Traced.result_pure, Except.ok.injEq]
    simpa using eq_comm
  | cons a rest ih =>
    rw [flattenInto, Traced.result_report_bind, Traced.result_bind_eq_ok, List.flatMap_cons,
      List.flatMap_cons, ObjectShape.insertAll_append]
    simp only [result_addFields_eq_ok, ih, List.forall_mem_append]
    constructor
    · rintro ⟨o', ⟨ha, rfl⟩, hrest, rfl⟩
      exact ⟨⟨ha, hrest⟩, rfl⟩
    · rintro ⟨⟨ha, hrest⟩, rfl⟩
      exact ⟨_, ⟨ha, rfl⟩, hrest, rfl⟩

theorem result_flattenInto_error {type : String} {o : ObjectShape Schema}
    {ancestors : List TypeDescriptor} {fault : Fault}
    (h : (flattenInto scope hooks type o ancestors).result = .error fault) :
    ∃ owner field u, fault = .unsupportedShape (.inField owner field (.nestedContainers u)) := by
  induction ancestors generalizing o with
  | nil => cases h
  | cons a rest ih =>
    rw [flattenInto, Traced.result_report_bind] at h
    rcases Traced.result_bind_eq_error.1 h with h | ⟨o', -, h⟩
    · exact ⟨a.name, result_addFields_error h⟩
    · exact ih h

/-! ## What a component is -/

theorem result_classObject_eq_ok {t : TypeDescriptor} {flattened : List TypeDescriptor}
    {o : ObjectShape Schema} :
    (classObject scope hooks t flattened).result = .ok o ↔
      (∀ f ∈ declaredFields flattened t, f.IsPlain) ∧ o = hookedObject scope hooks flattened t := by
  rw [classObject, Traced.result_bind_eq_ok, hookedObject, declaredFields, classProperties,
    List.flatMap_append, ObjectShape.insertAll_append, List.flatMap_singleton]
  simp only [Traced.result_bind_eq_ok, result_addFields_eq_ok, result_flattenInto_eq_ok,
    List.forall_mem_append]
  constructor
  · rintro ⟨o₁, ⟨hflat, rfl⟩, o₂, ⟨hown, rfl⟩, h⟩
    refine ⟨⟨hflat, hown⟩, ?_⟩
    cases hb : scope.polymorphicBase? t.name with
    | none =>
      rw [hb] at h
      exact (Except.ok.inj h).symm
    | some base =>
      rw [hb] at h
      exact (Except.ok.inj h).symm
  · rintro ⟨⟨hflat, hown⟩, rfl⟩
    refine ⟨_, ⟨hflat, rfl⟩, _, ⟨hown, rfl⟩, ?_⟩
    cases scope.polymorphicBase? t.name with
    | none => rfl
    | some base => rfl

theorem result_classObject_error {t : TypeDescriptor} {flattened : List TypeDescriptor}
    {fault : Fault} (h : (classObject scope hooks t flattened).result = .error fault) :
    ∃ owner field u, fault = .unsupportedShape (.inField owner field (.nestedContainers u)) := by
  rw [classObject] at h
  rcases Traced.result_bind_eq_error.1 h with h | ⟨o₁, -, h⟩
  · exact result_flattenInto_error h
  · rcases Traced.result_bind_eq_error.1 h with h | ⟨o₂, -, h⟩
    · exact ⟨t.name, result_addFields_error h⟩
    · split at h
      · cases h
      · cases h

/-- The outcome of a component, with the outcome of its class taken apart no further. -/
theorem result_componentOf (t : TypeDescriptor) :
    (componentOf scope hooks t).result =
      (if t.isEnum then .ok (.enumeration t.constants)
        else (classSchema scope hooks t).result).map fun s =>
          hooks.interceptSchema scope t (t.directives.applyToType s) := by
  rw [componentOf]
  cases t.isEnum with
  | true => rfl
  | false =>
    simp only [Bool.false_eq_true, if_false]
    rw [Traced.result_bind]
    cases (classSchema scope hooks t).result with
    | error fault => rfl
    | ok s => rfl

theorem result_classSchema_eq_ok {t : TypeDescriptor} {s : Schema} :
    (classSchema scope hooks t).result = .ok s ↔
      ∃ ancestry, (resolveAncestry scope t).result = .ok ancestry ∧
        (∀ f ∈ declaredFields ancestry.flattened t, f.IsPlain) ∧
        s = ancestry.schemaWith scope t (hookedObject scope hooks ancestry.flattened t) := by
  rw [classSchema, Traced.result_bind_eq_ok]
  simp only [Traced.result_bind_eq_ok, result_classObject_eq_ok, Ancestry.schemaWith]
  constructor
  · rintro ⟨ancestry, ha, o, ⟨hplain, rfl⟩, h⟩
    refine ⟨ancestry, ha, hplain, ?_⟩
    cases hp : ancestry.parent with
    | none =>
      rw [hp] at h
      exact (Except.ok.inj h).symm
    | some parent =>
      rw [hp] at h
      exact (Except.ok.inj h).symm
  · rintro ⟨ancestry, ha, hplain, rfl⟩
    refine ⟨ancestry, ha, _, ⟨hplain, rfl⟩, ?_⟩
    cases ancestry.parent with
    | none => rfl
    | some parent => rfl

/-- An enumeration lists its constants, and a class is what its superclasses, its fields and the
interceptors make it; the interceptors of schemas see it last. -/
theorem result_componentOf_iff {t : TypeDescriptor} {s : Schema} :
    (componentOf scope hooks t).result = .ok s ↔
      (t.isEnum = true ∧ s = hooks.interceptSchema scope t
        (t.directives.applyToType (.enumeration t.constants))) ∨
      (t.isEnum = false ∧ ∃ ancestry, (resolveAncestry scope t).result = .ok ancestry ∧
        (∀ f ∈ declaredFields ancestry.flattened t, f.IsPlain) ∧
        s = hooks.interceptSchema scope t (t.directives.applyToType
          (ancestry.schemaWith scope t (hookedObject scope hooks ancestry.flattened t)))) := by
  rw [result_componentOf]
  cases t.isEnum with
  | true => simp [Except.map, eq_comm]
  | false =>
    simp only [Bool.false_eq_true, if_false, false_and, false_or, true_and]
    constructor
    · intro h
      cases hc : (classSchema scope hooks t).result with
      | error fault =>
        rw [hc] at h
        cases h
      | ok node =>
        rw [hc] at h
        obtain ⟨ancestry, ha, hplain, rfl⟩ := result_classSchema_eq_ok.1 hc
        exact ⟨ancestry, ha, hplain, (Except.ok.inj h).symm⟩
    · rintro ⟨ancestry, ha, hplain, rfl⟩
      rw [result_classSchema_eq_ok.2 ⟨ancestry, ha, hplain, rfl⟩]
      rfl

/-- Without interceptors an enumeration lists its constants, and a class is what its superclasses and
its fields make it. -/
theorem result_componentOf_eq_ok (hz : hooks.interceptorCount = 0) {t : TypeDescriptor}
    {s : Schema} :
    (componentOf scope hooks t).result = .ok s ↔
      (t.isEnum = true ∧ s = t.directives.applyToType (.enumeration t.constants)) ∨
      (t.isEnum = false ∧ ∃ ancestry, (resolveAncestry scope t).result = .ok ancestry ∧
        (∀ f ∈ declaredFields ancestry.flattened t, f.IsPlain) ∧
        s = t.directives.applyToType (classNode scope t ancestry)) := by
  rw [result_componentOf_iff]
  simp only [Hooks.interceptSchema_eq hz, hookedObject_eq hz, classNode_eq]

/-- The faults of a component lie in its superclasses or in the type of a field. -/
theorem result_componentOf_error {t : TypeDescriptor} {fault : Fault}
    (h : (componentOf scope hooks t).result = .error fault) :
    (t.isEnum = false ∧ (resolveAncestry scope t).result = .error fault) ∨
      ∃ owner field u, fault = .unsupportedShape (.inField owner field (.nestedContainers u)) := by
  rw [result_componentOf] at h
  cases ht : t.isEnum with
  | true =>
    rw [ht] at h
    cases h
  | false =>
    rw [ht, if_neg (by decide)] at h
    cases hc : (classSchema scope hooks t).result with
    | ok s =>
      rw [hc] at h
      cases h
    | error inner =>
      rw [hc] at h
      obtain rfl : inner = fault := Except.error.inj h
      rcases Traced.result_bind_eq_error.1 hc with ha | ⟨ancestry, -, hc⟩
      · exact Or.inl ⟨rfl, ha⟩
      · rcases Traced.result_bind_eq_error.1 hc with ho | ⟨o, -, hc⟩
        · exact Or.inr (result_classObject_error ho)
        · split at hc
          · cases hc
          · cases hc

/-! ## The properties of a class -/

theorem properties_insertFields (o : ObjectShape Schema) (fields : List FieldDescriptor) :
    (o.insertFields scope fields).properties =
      ((fields.filter (·.isMapped)).map fun f => (f.name, f.schema scope)).foldl
        (fun t p => Assoc.insert t p.1 p.2) o.properties := by
  rw [insertFields_eq_insertAll, ObjectShape.properties_insertAll, List.map_map]
  rfl

theorem discriminator_insertFields (o : ObjectShape Schema) (fields : List FieldDescriptor) :
    (o.insertFields scope fields).discriminator = o.discriminator ∧
      (o.insertFields scope fields).additional = o.additional := by
  rw [insertFields_eq_insertAll]
  exact o.discriminator_insertAll _

theorem nodup_keys_fieldTable (fields : List FieldDescriptor) : (fieldTable fields).keys.Nodup :=
  Assoc.nodup_keys_ofPairs _

/-- The fields of the table, as properties. -/
theorem properties_insertFields_empty (fields : List FieldDescriptor) :
    (ObjectShape.insertFields scope {} fields).properties =
      (fieldTable fields).mapValues (·.schema scope) := by
  rw [properties_insertFields, fieldTable, Assoc.mapValues_ofPairs, List.map_map]
  rfl

/-- The properties of a class are those of its table of fields; a polymorphic base has its
discriminator property besides, unless a field has that name. -/
theorem properties_objectOf (flattened : List TypeDescriptor) (t : TypeDescriptor) :
    (objectOf scope flattened t).properties =
      (fieldTable (declaredFields flattened t)).mapValues (·.schema scope) ++
        match scope.polymorphicBase? t.name with
        | some base =>
          if (fieldTable (declaredFields flattened t)).contains base.property then []
          else [(base.property, .text)]
        | none => [] := by
  rw [objectOf]
  cases scope.polymorphicBase? t.name with
  | none => rw [properties_insertFields_empty, List.append_nil]
  | some base =>
    simp only [PolymorphicBase.addTo, properties_insertFields_empty]
    rw [Assoc.contains_mapValues]
    split
    · rw [List.append_nil]
    · rfl

theorem discriminator_objectOf (flattened : List TypeDescriptor) (t : TypeDescriptor) :
    (objectOf scope flattened t).discriminator =
      (scope.polymorphicBase? t.name).map (·.discriminator) := by
  rw [objectOf]
  cases scope.polymorphicBase? t.name with
  | none => exact (discriminator_insertFields _ _).1
  | some base => rfl

theorem additional_objectOf (flattened : List TypeDescriptor) (t : TypeDescriptor) :
    (objectOf scope flattened t).additional = none := by
  rw [objectOf]
  cases scope.polymorphicBase? t.name with
  | none => exact (discriminator_insertFields _ _).2
  | some base => exact (discriminator_insertFields _ _).2

end ApiContract
