import ApiContract.Proofs.Parts
import ApiContract.Proofs.Payloads
/-!
# Arrays of arrays

A list or array directly inside a list or array is refused. Envelopes leave nothing in a schema, but
they are looked at when a container is checked: a list of envelopes of lists is accepted, and its
schema is an array of arrays. This is the only way in which arrays come to stand in arrays.

* `Schema.HasArrayOfArrays` : somewhere in a schema the items of an array are an array.
* `TypeRef.nestsContainers`, `TypeRef.hidesContainers` : containers directly in containers, and
  containers in containers with nothing but envelopes between them.
* `hasArrayOfArrays_of_schema?` : the schemas with arrays of arrays are those of the types that hide
  containers.
* `arrays_of_arrays` : what is refused, what is accepted, and what this means for documents.
-/

namespace ApiContract

/-! ## Arrays in schemas -/

namespace Schema

/-- An array whose items are an array. -/
def IsArrayOfArrays (s : Schema) : Prop := ∃ i, s.items? = some i ∧ i.items?.isSome = true

/-- Somewhere in a schema there is an array of arrays. -/
def HasArrayOfArrays (s : Schema) : Prop := ∃ node, Inside node s ∧ node.IsArrayOfArrays

variable {s s' : Schema}

theorem hasArrayOfArrays_iff :
    s.HasArrayOfArrays ↔ s.IsArrayOfArrays ∨ ∃ p ∈ s.parts, p.HasArrayOfArrays := by
  constructor
  · rintro ⟨node, hin, harray⟩
    cases hin with
    | self => exact Or.inl harray
    | part hp hin => exact Or.inr ⟨_, hp, node, hin, harray⟩
  · rintro (harray | ⟨p, hp, node, hin, harray⟩)
    · exact ⟨s, .self, harray⟩
    · exact ⟨node, .part hp hin, harray⟩

theorem hasArrayOfArrays_congr (h : s.contents = s'.contents) :
    s.HasArrayOfArrays ↔ s'.HasArrayOfArrays := by
  rw [hasArrayOfArrays_iff, hasArrayOfArrays_iff, IsArrayOfArrays, IsArrayOfArrays,
    items?_congr h, parts_eq s, parts_eq s', h]

/-- What has no parts is no array. -/
theorem items?_of_parts_eq_nil (h : s.parts = []) : s.items? = none := by
  obtain ⟨shape, description, deprecated, access⟩ := s
  cases shape with
  | array a => cases h
  | _ => rfl

theorem not_hasArrayOfArrays_of_parts (h : s.parts = []) : ¬ s.HasArrayOfArrays := by
  rw [hasArrayOfArrays_iff, IsArrayOfArrays, items?_of_parts_eq_nil h, h]
  simp

theorem hasArrayOfArrays_array {i : Schema} :
    (array i).HasArrayOfArrays ↔ i.items?.isSome = true ∨ i.HasArrayOfArrays := by
  rw [hasArrayOfArrays_iff]
  simp [IsArrayOfArrays, items?, asArray?, array, ofShape, parts]

theorem hasArrayOfArrays_object {o : ObjectShape Schema} :
    (object o).HasArrayOfArrays ↔
      ∃ p ∈ Assoc.values o.properties ++ o.additional.toList, p.HasArrayOfArrays := by
  rw [hasArrayOfArrays_iff]
  simp only [IsArrayOfArrays, items?, asArray?, object, ofShape, parts, Option.map_none]
  simp

theorem hasArrayOfArrays_tableOf {v : Schema} :
    (tableOf v).HasArrayOfArrays ↔ v.HasArrayOfArrays := by
  rw [tableOf, hasArrayOfArrays_object]
  simp [Assoc.values]

theorem hasArrayOfArrays_composed {c : ComposedShape Schema} :
    (composed c).HasArrayOfArrays ↔ ∃ p ∈ c.allOf ++ c.oneOf, p.HasArrayOfArrays := by
  rw [hasArrayOfArrays_iff]
  simp only [IsArrayOfArrays, items?, asArray?, composed, ofShape, parts, Option.map_none]
  simp

end Schema

/-! ## Containers in types -/

namespace TypeRef

/-- A type and all types inside it. -/
def layers : TypeRef → List TypeRef
  | .list element => .list element :: layers element
  | .array element => .array element :: layers element
  | .map value => .map value :: layers value
  | .envelope inner => .envelope inner :: layers inner
  | t => [t]

/-- A type without the envelopes around it. -/
def unsealed : TypeRef → TypeRef
  | .envelope inner => unsealed inner
  | t => t

/-- Whether somewhere in a type a list or array stands directly in a list or array. -/
def nestsContainers (t : TypeRef) : Bool :=
  t.layers.any fun u => u.element?.any (·.isContainer)

/-- Whether somewhere in a type a list or array stands in a list or array with envelopes between
them. -/
def hidesContainers (t : TypeRef) : Bool :=
  t.layers.any fun u => u.element?.any fun e => !e.isContainer && e.unsealed.isContainer

theorem nested?_isSome (t : TypeRef) : t.nested?.isSome = t.nestsContainers := by
  induction t with
  | list element ih =>
    rw [nested?, nestsContainers, layers, List.any_cons, element?, Option.any_some]
    cases element.isContainer with
    | true => rfl
    | false => exact ih
  | array element ih =>
    rw [nested?, nestsContainers, layers, List.any_cons, element?, Option.any_some]
    cases element.isContainer with
    | true => rfl
    | false => exact ih
  | map value ih => exact ih
  | envelope inner ih => exact ih
  | _ => rfl

theorem nested?_eq_none_iff (t : TypeRef) : t.nested? = none ↔ t.nestsContainers = false := by
  rw [← nested?_isSome, Option.isSome_eq_false_iff, Option.isNone_iff_eq_none]

/-- The schema of a type is an array if there is a container behind its envelopes. -/
theorem items?_wrap {s : Schema} (hs : s.items? = none) (t : TypeRef) :
    (t.wrap s).items?.isSome = t.unsealed.isContainer := by
  induction t with
  | envelope inner ih => exact ih
  | list _ _ => rfl
  | array _ _ => rfl
  | map _ _ => rfl
  | _ => exact hs ▸ rfl

/-- The step of `hasArrayOfArrays_wrap` for a list or an array. -/
theorem hasArrayOfArrays_array_wrap {s : Schema} (hitems : s.items? = none) {t element : TypeRef}
    (hn : (if element.isContainer then some t else element.nested?) = none)
    (ih : element.nested? = none →
      ((element.wrap s).HasArrayOfArrays ↔ element.hidesContainers = true)) :
    (Schema.array (element.wrap s)).HasArrayOfArrays ↔
      (!element.isContainer && element.unsealed.isContainer || element.hidesContainers) = true := by
  cases hc : element.isContainer with
  | true =>
    rw [hc] at hn
    cases hn
  | false =>
    rw [hc, if_neg (by decide)] at hn
    rw [Schema.hasArrayOfArrays_array, items?_wrap hitems, ih hn, Bool.not_false, Bool.true_and,
      Bool.or_eq_true]

/-- Arrays stand in arrays exactly where containers are hidden. -/
theorem hasArrayOfArrays_wrap {s : Schema} (hitems : s.items? = none)
    (hs : ¬ s.HasArrayOfArrays) {t : TypeRef} (hn : t.nested? = none) :
    (t.wrap s).HasArrayOfArrays ↔ t.hidesContainers = true := by
  induction t with
  | list element ih => exact hasArrayOfArrays_array_wrap hitems hn ih
  | array element ih => exact hasArrayOfArrays_array_wrap hitems hn ih
  | map value ih => exact Schema.hasArrayOfArrays_tableOf.trans (ih hn)
  | envelope inner ih => exact ih hn
  | _ => exact iff_of_false hs Bool.false_ne_true

end TypeRef

/-! ## Schemas of types -/

variable {config : Config} {hooks : Hooks} {graph : TypeGraph} {scope : Scope}
  {style : ReferenceStyle}

theorem not_hasArrayOfArrays_reference (target : String) :
    ¬ (Schema.reference target).HasArrayOfArrays :=
  Schema.not_hasArrayOfArrays_of_parts rfl

theorem not_hasArrayOfArrays_alternatives (b : PolymorphicBase) :
    ¬ b.alternatives.HasArrayOfArrays := by
  rw [PolymorphicBase.alternatives, Schema.hasArrayOfArrays_composed]
  rintro ⟨p, hp, harray⟩
  obtain ⟨target, -, rfl⟩ := List.mem_map.1 hp
  exact not_hasArrayOfArrays_reference target harray

/-- The schema of a type without wrappers holds no arrays. -/
theorem no_arrays_of_leafNode? {t : TypeRef} {s : Schema} (h : leafNode? scope style t = some s) :
    s.items? = none ∧ ¬ s.HasArrayOfArrays := by
  cases t with
  | named name =>
    rw [leafNode?, Option.some.injEq, namedNode] at h
    split at h
    · exact h ▸ ⟨rfl, Schema.not_hasArrayOfArrays_of_parts rfl⟩
    · split at h
      · exact h ▸ ⟨rfl, not_hasArrayOfArrays_alternatives _⟩
      · exact h ▸ ⟨rfl, not_hasArrayOfArrays_reference _⟩
  | primitive kind boxed =>
    obtain rfl := Option.some.inj h
    cases kind <;> exact ⟨rfl, Schema.not_hasArrayOfArrays_of_parts rfl⟩
  | date | dateTime | uuid | file =>
    exact Option.some.inj h ▸ ⟨rfl, Schema.not_hasArrayOfArrays_of_parts rfl⟩
  | _ => cases h

/-- The schemas with arrays of arrays are those of the types that hide containers. -/
theorem hasArrayOfArrays_of_schema? {t : TypeRef} {s : Schema} (hn : t.nested? = none)
    (hs : schema? scope style t = some s) :
    s.HasArrayOfArrays ↔ t.hidesContainers = true := by
  obtain ⟨leaf, hleaf, rfl⟩ := Option.map_eq_some_iff.1 hs
  obtain ⟨hitems, harray⟩ := no_arrays_of_leafNode? hleaf
  exact TypeRef.hasArrayOfArrays_wrap hitems harray hn

/-! ## Components -/

/-- The fields that become properties of the component of a type. -/
def componentFields (scope : Scope) (t : TypeDescriptor) : List FieldDescriptor :=
  if t.isEnum then []
  else
    match (resolveAncestry scope t).result with
    | .ok ancestry => (fieldTable (declaredFields ancestry.flattened t)).values
    | .error _ => []

theorem mem_values_fieldTable {fields : List FieldDescriptor} {f : FieldDescriptor}
    (h : f ∈ (fieldTable fields).values) : f ∈ fields ∧ f.isMapped = true := by
  obtain ⟨name, hf⟩ := Assoc.mem_values_iff.1 h
  obtain ⟨f', hf', heq⟩ := List.mem_map.1 (Assoc.mem_of_mem_ofPairs hf)
  obtain rfl : f' = f := (Prod.mk.inj heq).2
  exact List.mem_filter.1 hf'

theorem hasArrayOfArrays_field {f : FieldDescriptor} (hm : f.isMapped = true) (hp : f.IsPlain) :
    (f.schema scope).HasArrayOfArrays ↔ f.type.hidesContainers = true := by
  rw [FieldDescriptor.isMapped, Bool.and_eq_true, Bool.not_eq_true',
    ← schema?_isSome scope .polymorphic] at hm
  obtain ⟨s, hs⟩ := Option.isSome_iff_exists.1 hm.2
  rw [FieldDescriptor.schema, hs, Schema.hasArrayOfArrays_congr (Schema.contents_applyTo _ _)]
  exact hasArrayOfArrays_of_schema? (hp hm.1) hs

theorem hasArrayOfArrays_objectOf {flattened : List TypeDescriptor} {t : TypeDescriptor}
    (hplain : ∀ f ∈ declaredFields flattened t, f.IsPlain) :
    (Schema.object (objectOf scope flattened t)).HasArrayOfArrays ↔
      ∃ f ∈ (fieldTable (declaredFields flattened t)).values, f.type.hidesContainers = true := by
  rw [Schema.hasArrayOfArrays_object, additional_objectOf, Option.toList_none, List.append_nil,
    properties_objectOf, Assoc.values_append, Assoc.values_mapValues]
  have hfield : ∀ f ∈ (fieldTable (declaredFields flattened t)).values,
      ((f.schema scope).HasArrayOfArrays ↔ f.type.hidesContainers = true) := by
    intro f hf
    obtain ⟨hmem, hmapped⟩ := mem_values_fieldTable hf
    exact hasArrayOfArrays_field hmapped (hplain f hmem)
  constructor
  · rintro ⟨p, hp, harray⟩
    rcases List.mem_append.1 hp with hp | hp
    · obtain ⟨f, hf, rfl⟩ := List.mem_map.1 hp
      exact ⟨f, hf, (hfield f hf).1 harray⟩
    · -- the discriminator property is a text
      obtain ⟨name, hp⟩ := Assoc.mem_values_iff.1 hp
      split at hp
      · split at hp
        · cases hp
        · obtain ⟨-, rfl⟩ := Prod.mk.inj (List.mem_singleton.1 hp)
          exact absurd harray (Schema.not_hasArrayOfArrays_of_parts rfl)
      · cases hp
  · rintro ⟨f, hf, hhides⟩
    exact ⟨f.schema scope, List.mem_append_left _ (List.mem_map_of_mem hf), (hfield f hf).2 hhides⟩

theorem hasArrayOfArrays_classNode {t : TypeDescriptor} {ancestry : Ancestry} :
    (classNode scope t ancestry).HasArrayOfArrays ↔
      (Schema.object (objectOf scope ancestry.flattened t)).HasArrayOfArrays := by
  rw [classNode]
  cases ancestry.parent with
  | none => rfl
  | some parent =>
    simp only [Schema.hasArrayOfArrays_composed, List.append_nil, List.mem_cons,
      List.not_mem_nil, or_false, exists_eq_or_imp, exists_eq_left]
    exact or_iff_right (not_hasArrayOfArrays_reference _)

/-- A component has arrays of arrays exactly if the type of one of its fields hides containers. -/
theorem hasArrayOfArrays_componentOf (hz : hooks.interceptorCount = 0) {t : TypeDescriptor}
    {s : Schema} (hs : (componentOf scope hooks t).result = .ok s) :
    s.HasArrayOfArrays ↔ ∃ f ∈ componentFields scope t, f.type.hidesContainers = true := by
  rw [componentFields]
  rcases (result_componentOf_eq_ok hz).1 hs with ⟨henum, rfl⟩ | ⟨henum, ancestry, ha, hplain, rfl⟩
  · rw [if_pos henum]
    exact iff_of_false (Schema.not_hasArrayOfArrays_of_parts rfl) (by simp)
  · rw [henum, if_neg (by decide), ha, ← hasArrayOfArrays_objectOf hplain,
      ← hasArrayOfArrays_classNode]
    exact Schema.hasArrayOfArrays_congr (Schema.contents_congr (Schema.shape_applyToType _ _))

/-! ## Operations -/

/-- If a schema has arrays of arrays, one of some types hides containers. -/
def Schema.IsExplainedBy (types : List TypeRef) (s : Schema) : Prop :=
  s.HasArrayOfArrays → ∃ t ∈ types, t.hidesContainers = true

theorem not_hasArrayOfArrays_form (name : String) :
    ¬ (Schema.object
      (ObjectShape.insertProperty {} name (.array .binary) false)).HasArrayOfArrays := by
  have hfiles : ¬ (Schema.array .binary).HasArrayOfArrays := by
    rw [Schema.hasArrayOfArrays_array]
    rintro (h | h)
    · cases h
    · exact Schema.not_hasArrayOfArrays_of_parts rfl h
  rw [Schema.hasArrayOfArrays_object]
  rintro ⟨p, hp, harray⟩
  obtain rfl := List.mem_singleton.1 hp
  exact hfiles harray

/-- Files, forms of files and texts have no arrays of arrays, so a payload that has some is made from
a type. -/
theorem Schema.IsPayload.isExplainedBy {types : List TypeRef} {s : Schema}
    (h : s.IsPayload scope types) : s.IsExplainedBy types := by
  intro harray
  cases h with
  | typed ht hn hs hc =>
    exact ⟨_, ht, (hasArrayOfArrays_of_schema? hn hs).1 ((hasArrayOfArrays_congr hc).1 harray)⟩
  | file hc | text hc =>
    exact absurd ((hasArrayOfArrays_congr hc).1 harray) (not_hasArrayOfArrays_of_parts rfl)
  | files name hc =>
    exact absurd ((hasArrayOfArrays_congr hc).1 harray) (not_hasArrayOfArrays_form name)

/-! ## What is refused and what is accepted -/

/-- A type that is refused is refused for a container of containers in it. -/
theorem mem_layers_of_nested? {t u : TypeRef} (h : t.nested? = some u) :
    u ∈ t.layers ∧ u.element?.any (·.isContainer) = true := by
  induction t with
  | list element ih | array element ih =>
    rw [TypeRef.nested?] at h
    split at h
    · next hc =>
      obtain rfl := Option.some.inj h
      exact ⟨List.mem_cons_self .., hc⟩
    · exact ⟨List.mem_cons_of_mem _ (ih h).1, (ih h).2⟩
  | map value ih => exact ⟨List.mem_cons_of_mem _ (ih h).1, (ih h).2⟩
  | envelope inner ih => exact ⟨List.mem_cons_of_mem _ (ih h).1, (ih h).2⟩
  | _ => cases h

theorem exists_result_schemaOf_error_iff {t : TypeRef} :
    (∃ fault, (schemaOf scope style t).result = .error fault) ↔ t.nestsContainers = true := by
  simp only [result_schemaOf_eq_error, ← TypeRef.nested?_isSome, Option.isSome_iff_exists]
  constructor
  · rintro ⟨fault, u, hu, -⟩
    exact ⟨u, hu⟩
  · rintro ⟨u, hu⟩
    exact ⟨_, u, hu, rfl⟩

/-- A component of a document has arrays of arrays exactly if a field that becomes its own hides
containers. -/
theorem hasArrayOfArrays_component_iff (hz : hooks.interceptorCount = 0)
    {handlers : NamespaceMatcher} {d : Document}
    (hd : (generateIn config hooks graph scope handlers).result = .ok d) {key : String} {s : Schema}
    (hs : (key, s) ∈ d.components) :
    ∃ t ∈ candidateTypes config hooks graph, t.simpleName = key ∧
      (s.HasArrayOfArrays ↔ ∃ f ∈ componentFields scope t, f.type.hidesContainers = true) := by
  obtain ⟨t, ht, hname, hcomponent⟩ := (componentsAdded_of_generateIn hd).exists_type hs
  exact ⟨t, ht, hname, hasArrayOfArrays_componentOf hz hcomponent⟩

/-- An operation of a document has no arrays of arrays unless a type that its method declares hides
containers. -/
theorem isExplainedBy_operation (hz : hooks.interceptorCount = 0)
    {handlers : NamespaceMatcher} {d : Document}
    (hd : (generateIn config hooks graph scope handlers).result = .ok d) {o : Operation}
    (ho : o ∈ d.operations) :
    ∃ handler ∈ graph.types, ∃ m ∈ handler.methods, ∀ s ∈ o.schemas,
      s.IsExplainedBy m.declaredTypes := by
  obtain ⟨handler, hhandler, m, hm, hpayload⟩ := isPayload_operation hz hd ho
  exact ⟨handler, hhandler, m, hm, fun s hs => (hpayload s hs).isExplainedBy⟩

/-- A value type is refused exactly if containers are nested in it directly, and the fault names a
container of containers. The schema of a type that is accepted has arrays of arrays exactly if the
type hides containers. So without interceptors a component of a document has arrays of arrays
exactly if the type of one of its fields hides containers, and an operation has none unless a type
that its method declares does. -/
theorem arrays_of_arrays (config : Config) (hooks : Hooks) (graph : TypeGraph) :
    (∀ (scope : Scope) (style : ReferenceStyle) (t : TypeRef),
      ((∃ fault, (schemaOf scope style t).result = .error fault) ↔ t.nestsContainers = true) ∧
      (∀ fault, (schemaOf scope style t).result = .error fault →
        ∃ u ∈ t.layers, u.element?.any (·.isContainer) = true ∧
          fault = .unsupportedShape (.nestedContainers u)) ∧
      (∀ node, (schemaOf scope style t).result = .ok (some node) →
        (node.HasArrayOfArrays ↔ t.hidesContainers = true))) ∧
    (∀ d, hooks.interceptorCount = 0 → (generate config hooks graph).result = .ok d →
      (∃ bases scope, IsScopeOf config hooks graph bases scope ∧
        ∀ key s, (key, s) ∈ d.components → ∃ t ∈ candidateTypes config hooks graph,
          t.simpleName = key ∧
          (s.HasArrayOfArrays ↔ ∃ f ∈ componentFields scope t, f.type.hidesContainers = true)) ∧
      (∀ o ∈ d.operations, ∃ handler ∈ graph.types, ∃ m ∈ handler.methods,
        ∀ s ∈ o.schemas, s.HasArrayOfArrays →
          ∃ t ∈ m.declaredTypes, t.hidesContainers = true)) := by
  refine ⟨fun scope style t => ⟨exists_result_schemaOf_error_iff, fun fault hf => ?_,
    fun node hnode => ?_⟩, fun d hz hg => ?_⟩
  · obtain ⟨u, hu, rfl⟩ := result_schemaOf_eq_error.1 hf
    obtain ⟨hmem, hc⟩ := mem_layers_of_nested? hu
    exact ⟨u, hmem, hc, rfl⟩
  · obtain ⟨hn, hs⟩ := result_schemaOf_eq_ok.1 hnode
    exact hasArrayOfArrays_of_schema? hn hs.symm
  · obtain ⟨bases, scope, handlers, h, -, hd⟩ := result_generate_eq_ok.1 hg
    exact ⟨⟨bases, scope, h, fun key s hs => hasArrayOfArrays_component_iff hz hd hs⟩,
      fun o ho => isExplainedBy_operation hz hd ho⟩

/-- A list of envelopes of lists. -/
def sealedRows : TypeRef := .list (.envelope (.list (.unboxed .int32)))

/-- The configuration of a program with tables. -/
def sheetConfig : Config := { modelNamespaces := ["sheet"] }

/-- A class with a field of sealed rows. -/
def sheetGraph : TypeGraph where
  types := [{ name := "sheet.Sheet", fields := [{ name := "rows", type := sealedRows }] }]
  nodup_names := by decide +kernel

theorem arrays_of_arrays_sheet :
    sealedRows.hidesContainers = true ∧ Hooks.none.interceptorCount = 0 ∧
      ∃ d, (generate sheetConfig Hooks.none sheetGraph).result = .ok d ∧
        ∃ s, ("Sheet", s) ∈ d.components ∧ s.HasArrayOfArrays := by
  obtain ⟨d, hd⟩ := exists_eq_ok_of_toBool
    (show (generate sheetConfig Hooks.none sheetGraph).result.toBool = true by decide +kernel)
  have hkeys : (generate sheetConfig Hooks.none sheetGraph).result.map (·.components.keys) =
      .ok ["Sheet"] := by decide +kernel
  have hcandidates : candidateTypes sheetConfig Hooks.none sheetGraph = sheetGraph.types := by
    decide +kernel
  have hsheet : "Sheet" ∈ d.components.keys := by
    rw [hd] at hkeys
    have hkeys' : d.components.keys = ["Sheet"] := Except.ok.inj hkeys
    rw [hkeys']
    exact List.mem_cons_self ..
  obtain ⟨⟨key, s⟩, hmem, hkey⟩ := List.mem_map.1 hsheet
  obtain rfl : key = "Sheet" := hkey
  obtain ⟨⟨bases, scope, -, hcomponents⟩, -⟩ :=
    (arrays_of_arrays sheetConfig Hooks.none sheetGraph).2 d rfl hd
  obtain ⟨t, ht, -, hiff⟩ := hcomponents "Sheet" s hmem
  rw [hcandidates] at ht
  obtain rfl := List.mem_singleton.1 ht
  refine ⟨by decide, rfl, d, hd, s, hmem, hiff.2 ⟨{ name := "rows", type := sealedRows }, ?_, ?_⟩⟩
  · -- the class has no superclass, so the field is the only one
    rw [componentFields, resolveAncestry, walkAncestry]
    exact List.mem_singleton.2 rfl
  · decide

/-- The schema of sealed rows is an array of arrays. -/
theorem sealed_rows_accepted :
    ∃ node, (schemaOf { graph := sheetGraph, namespaces := ⟨[]⟩ } .polymorphic sealedRows).result =
        .ok (some node) ∧ node.HasArrayOfArrays :=
  ⟨.array (.array (.integer "int32")), rfl, _, .self, _, rfl, rfl⟩

end ApiContract
