import ApiContract.Proofs.Bases
import ApiContract.Proofs.ClassObject
import ApiContract.Proofs.OperationSources
import ApiContract.Proofs.SuperclassChains
/-!
# The types behind references

Every reference in a schema was made for a named type, its *origin*. Origins are listed here from
the declared types, without looking at the schema, in the order of the references made for them.

* `namedOrigins` : a candidate is referred to itself; where a polymorphic base is described by its
  subclasses, these are referred to instead, once as alternatives and once in the mapping.
* `componentOrigins` : the superclass, the types of the fields, and the subclasses in the mapping.
* `references_componentOf` : the references of a component are the simple names of its origins.
* `isCandidateName_of_mem_componentOrigins` : all origins are candidates.
-/

namespace ApiContract

/-- The types that the schema of a named type refers to. -/
def namedOrigins (scope : Scope) (style : ReferenceStyle) (name : String) : List String :=
  match scope.component? name with
  | none => []
  | some _ =>
    match style, scope.polymorphicBase? name with
    | .polymorphic, some base => base.classes.keys ++ base.classes.keys
    | _, _ => [name]

/-- The types that the schema of a value type refers to. -/
def TypeRef.origins (scope : Scope) (style : ReferenceStyle) (t : TypeRef) : List String :=
  match t.leaf with
  | .named name => namedOrigins scope style name
  | _ => []

/-- The types that the object of a class refers to. -/
def objectOrigins (scope : Scope) (flattened : List TypeDescriptor) (t : TypeDescriptor) :
    List String :=
  (fieldTable (declaredFields flattened t)).values.flatMap
      (fun f => f.type.origins scope .polymorphic) ++
    ((scope.polymorphicBase? t.name).map (·.classes.keys)).getD []

/-- The types that a component refers to. -/
def componentOrigins (scope : Scope) (t : TypeDescriptor) : List String :=
  if t.isEnum then []
  else
    match (resolveAncestry scope t).result with
    | .ok ancestry =>
      (ancestry.parent.map (·.name)).toList ++ objectOrigins scope ancestry.flattened t
    | .error _ => []

variable {config : Config} {hooks : Hooks} {graph : TypeGraph} {bases : PolymorphismMap}
  {scope : Scope}

/-! ## References of lists of schemas -/

namespace Schema

theorem referencesOfAll_eq (schemas : List Schema) :
    referencesOfAll schemas = schemas.flatMap references := by
  induction schemas with
  | nil => rw [referencesOfAll, List.flatMap_nil]
  | cons s rest ih => rw [referencesOfAll, ih, List.flatMap_cons]

theorem referencesOfProperties_eq (properties : List (String × Schema)) :
    referencesOfProperties properties = (Assoc.values properties).flatMap references := by
  induction properties with
  | nil => rw [referencesOfProperties, Assoc.values_nil, List.flatMap_nil]
  | cons p rest ih =>
    obtain ⟨name, s⟩ := p
    rw [referencesOfProperties, ih, Assoc.values_cons, List.flatMap_cons]

theorem references_reference (target : String) : (reference target).references = [target] := by
  rw [reference, ofShape, references]

theorem references_genericObject : genericObject.references = [] := by
  rw [genericObject, ofShape, references]

theorem references_text : text.references = [] := by
  rw [text, ofShape, references]

end Schema

/-! ## References of value types -/

theorem references_alternatives {b : PolymorphicBase} (h : b.classes.values.Nodup) :
    b.alternatives.references = (b.classes.keys ++ b.classes.keys).map simpleNameOf := by
  rw [PolymorphicBase.alternatives, Schema.composed, Schema.ofShape, Schema.references,
    Schema.referencesOfAll, Schema.referencesOfAll_eq, Schema.mappedComponents,
    PolymorphicBase.discriminator, PolymorphicBase.values_mapping h, List.nil_append,
    List.map_append, PolymorphicBase.components]
  congr 1
  rw [List.flatMap_map]
  simp only [Schema.references_reference, List.flatMap_singleton']

theorem references_namedNode (h : IsScopeOf config hooks graph bases scope)
    (style : ReferenceStyle) (name : String) :
    (namedNode scope style name).references =
      (namedOrigins scope style name).map simpleNameOf := by
  unfold namedNode namedOrigins
  cases hc : scope.component? name with
  | none => exact Schema.references_genericObject
  | some t =>
    obtain ⟨-, hname⟩ := h.component?_eq_some_iff.1 hc
    have hself : (Schema.reference t.simpleName).references = [name].map simpleNameOf := by
      rw [Schema.references_reference, ← hname]
      rfl
    cases style with
    | direct => exact hself
    | polymorphic =>
      cases hb : scope.polymorphicBase? name with
      | none => exact hself
      | some b =>
        exact references_alternatives (h.polymorphicBase?_spec hb).2.nodup_tags

theorem references_leafNode? (h : IsScopeOf config hooks graph bases scope)
    {style : ReferenceStyle} {t : TypeRef} {s : Schema}
    (hs : leafNode? scope style t.leaf = some s) :
    s.references = (t.origins scope style).map simpleNameOf := by
  rw [TypeRef.origins]
  cases ht : t.leaf with
  | named name =>
    rw [ht] at hs
    obtain rfl := Option.some.inj hs
    exact references_namedNode h style name
  | primitive kind boxed =>
    rw [ht] at hs
    obtain rfl := Option.some.inj hs
    cases kind <;> simp [Primitive.schema, Schema.integer, Schema.number, Schema.boolean,
      Schema.text, Schema.ofShape, Schema.references]
  | date | dateTime | uuid | file =>
    rw [ht] at hs
    obtain rfl := Option.some.inj hs
    simp [Schema.formatted, Schema.binary, Schema.ofShape, Schema.references]
  | _ =>
    rw [ht] at hs
    cases hs

/-- The references of a value type's schema are the simple names of its origins. -/
theorem references_schema? (h : IsScopeOf config hooks graph bases scope) {style : ReferenceStyle}
    {t : TypeRef} {s : Schema} (hs : schema? scope style t = some s) :
    s.references = (t.origins scope style).map simpleNameOf := by
  obtain ⟨node, hnode, rfl⟩ := Option.map_eq_some_iff.1 hs
  rw [TypeRef.references_wrap, references_leafNode? h hnode]

theorem origins_of_schema?_eq_none {style : ReferenceStyle} {t : TypeRef}
    (hs : schema? scope style t = none) : t.origins scope style = [] := by
  rw [schema?, Option.map_eq_none_iff] at hs
  rw [TypeRef.origins]
  cases ht : t.leaf with
  | named name =>
    rw [ht] at hs
    cases hs
  | _ => rfl

theorem typeReferences_eq (h : IsScopeOf config hooks graph bases scope) (t : TypeRef) :
    typeReferences scope t = (t.origins scope .direct).map simpleNameOf := by
  rw [typeReferences]
  cases hs : schema? scope .direct t with
  | none => rw [origins_of_schema?_eq_none hs]; rfl
  | some s => exact references_schema? h hs

theorem references_field (h : IsScopeOf config hooks graph bases scope) (f : FieldDescriptor) :
    (f.schema scope).references = (f.type.origins scope .polymorphic).map simpleNameOf := by
  rw [FieldDescriptor.schema, Schema.references_applyTo]
  cases hs : schema? scope .polymorphic f.type with
  | none =>
    rw [origins_of_schema?_eq_none hs]
    exact Schema.references_genericObject
  | some s => exact references_schema? h hs

/-! ## References of components -/

theorem references_object (o : ObjectShape Schema) (ho : o.additional = none) :
    (Schema.object o).references = (Assoc.values o.properties).flatMap Schema.references ++
      Schema.mappedComponents o.discriminator := by
  obtain ⟨properties, required, discriminator, additional⟩ := o
  obtain rfl : additional = none := ho
  rw [Schema.object, Schema.ofShape, Schema.references, Schema.referencesOfProperties_eq,
    Schema.referencesOfOption, List.append_nil]

theorem references_composition (parent : String) (o : Schema) (value : Option String) :
    (Schema.composed { allOf := [.reference parent, o], value }).references =
      parent :: o.references := by
  rw [Schema.composed, Schema.ofShape, Schema.references, Schema.referencesOfAll_eq,
    Schema.referencesOfAll, Schema.mappedComponents]
  simp [Schema.references_reference]

theorem references_objectOf (h : IsScopeOf config hooks graph bases scope)
    (flattened : List TypeDescriptor) (t : TypeDescriptor) :
    (Schema.object (objectOf scope flattened t)).references =
      (objectOrigins scope flattened t).map simpleNameOf := by
  rw [references_object _ (additional_objectOf flattened t), properties_objectOf,
    discriminator_objectOf, objectOrigins, List.map_append, Assoc.values_append,
    Assoc.values_mapValues, List.flatMap_append, List.flatMap_map, List.append_assoc]
  have hfields : ((fieldTable (declaredFields flattened t)).values.flatMap fun f =>
        (f.schema scope).references) =
      ((fieldTable (declaredFields flattened t)).values.flatMap fun f =>
        f.type.origins scope .polymorphic).map simpleNameOf := by
    rw [List.map_flatMap]
    congr 1
    funext f
    exact references_field h f
  rw [hfields]
  congr 1
  cases hb : scope.polymorphicBase? t.name with
  | none => rfl
  | some b =>
    -- the discriminator property is a text, and only the mapping has references
    have hmapping : Schema.mappedComponents (some b.discriminator) =
        b.classes.keys.map simpleNameOf :=
      PolymorphicBase.values_mapping (h.polymorphicBase?_spec hb).2.nodup_tags
    have htext : (Assoc.values (if (fieldTable (declaredFields flattened t)).contains b.property
        then [] else [(b.property, Schema.text)])).flatMap Schema.references = [] := by
      split
      · rfl
      · rw [Assoc.values_cons, List.flatMap_cons, Schema.references_text]
        rfl
    simp only [Option.map_some, Option.getD_some]
    rw [htext, hmapping, List.nil_append]

theorem references_classNode (h : IsScopeOf config hooks graph bases scope) (t : TypeDescriptor)
    (ancestry : Ancestry) :
    (classNode scope t ancestry).references =
      ((ancestry.parent.map (·.name)).toList ++
        objectOrigins scope ancestry.flattened t).map simpleNameOf := by
  rw [classNode]
  cases ancestry.parent with
  | none => exact references_objectOf h ancestry.flattened t
  | some parent =>
    rw [references_composition, references_objectOf h]
    rfl

/-- The references of a component are the simple names of its origins. -/
theorem references_componentOf (hz : hooks.interceptorCount = 0)
    (h : IsScopeOf config hooks graph bases scope) {t : TypeDescriptor} {s : Schema}
    (hs : (componentOf scope hooks t).result = .ok s) :
    s.references = (componentOrigins scope t).map simpleNameOf := by
  rw [componentOrigins]
  rcases (result_componentOf_eq_ok hz).1 hs with ⟨ht, rfl⟩ | ⟨ht, ancestry, ha, -, rfl⟩
  · rw [if_pos ht, Schema.references_of_shape (Schema.shape_applyToType _ _), Schema.enumeration,
      Schema.ofShape, Schema.references, List.map_nil]
  · rw [if_neg (by rw [ht]; decide), ha,
      Schema.references_of_shape (Schema.shape_applyToType _ _), references_classNode h]

/-! ## Origins are candidates -/

theorem isCandidateName_of_mem_namedOrigins (h : IsScopeOf config hooks graph bases scope)
    {style : ReferenceStyle} {name n : String} (hn : n ∈ namedOrigins scope style name) :
    IsCandidateName config hooks graph n := by
  unfold namedOrigins at hn
  cases hc : scope.component? name with
  | none =>
    rw [hc] at hn
    cases hn
  | some t =>
    rw [hc] at hn
    have hself : n ∈ [name] → IsCandidateName config hooks graph n := by
      intro hmem
      obtain rfl := List.mem_singleton.1 hmem
      exact ⟨t, h.component?_eq_some_iff.1 hc⟩
    cases style with
    | direct => exact hself hn
    | polymorphic =>
      cases hb : scope.polymorphicBase? name with
      | none =>
        rw [hb] at hn
        exact hself hn
      | some b =>
        rw [hb] at hn
        refine (h.polymorphicBase?_spec hb).2.candidate n ?_
        rcases List.mem_append.1 hn with hn | hn
        · exact hn
        · exact hn

theorem isCandidateName_of_mem_origins (h : IsScopeOf config hooks graph bases scope)
    {style : ReferenceStyle} {t : TypeRef} {n : String} (hn : n ∈ t.origins scope style) :
    IsCandidateName config hooks graph n := by
  rw [TypeRef.origins] at hn
  split at hn
  · exact isCandidateName_of_mem_namedOrigins h hn
  · cases hn

theorem isCandidateName_of_mem_objectOrigins (h : IsScopeOf config hooks graph bases scope)
    {flattened : List TypeDescriptor} {t : TypeDescriptor} {n : String}
    (hn : n ∈ objectOrigins scope flattened t) : IsCandidateName config hooks graph n := by
  rcases List.mem_append.1 hn with hn | hn
  · obtain ⟨f, -, hf⟩ := List.mem_flatMap.1 hn
    exact isCandidateName_of_mem_origins h hf
  · cases hb : scope.polymorphicBase? t.name with
    | none =>
      rw [hb] at hn
      cases hn
    | some b =>
      rw [hb] at hn
      exact (h.polymorphicBase?_spec hb).2.candidate n hn

/-- Every origin of a component is a candidate. -/
theorem isCandidateName_of_mem_componentOrigins (h : IsScopeOf config hooks graph bases scope)
    {t : TypeDescriptor} (ht : t ∈ graph.types) {n : String}
    (hn : n ∈ componentOrigins scope t) : IsCandidateName config hooks graph n := by
  rw [componentOrigins] at hn
  split at hn
  · cases hn
  · cases ha : (resolveAncestry scope t).result with
    | error fault =>
      rw [ha] at hn
      cases hn
    | ok ancestry =>
      rw [ha] at hn
      rcases List.mem_append.1 hn with hn | hn
      · obtain ⟨p, hp, rfl⟩ := Option.map_eq_some_iff.1 (Option.mem_toList.1 hn)
        exact isCandidateName_of_mem ((parent_resolveAncestry_iff h ht ha).1 hp).1
      · exact isCandidateName_of_mem_objectOrigins h hn

end ApiContract
