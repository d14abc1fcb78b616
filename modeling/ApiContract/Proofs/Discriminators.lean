import Mathlib.Data.List.Nodup
import ApiContract.Proofs.Generation
/-!
# Discriminators of polymorphic bases

The subclasses of a base appear four times: in the bases that are resolved, in the mapping of
discriminator values, in the object of the base, and wherever a field refers to the base. All four
agree, in the same order.

* `PolymorphicBase.IsCarriedBy` : an object has the discriminator of a base.
* `PolymorphicBase.IsOffered` : a schema is a choice between the subclasses of a base.
* `Schema.ownObject?` : the object of a class, alone or composed with a superclass.
* `discriminators_agree` : the statement for whole documents.
-/

namespace ApiContract

/-- The object of a class: the schema itself, or the second part of a composition. -/
def Schema.ownObject? (s : Schema) : Option (ObjectShape Schema) :=
  match s.shape with
  | .object o => some o
  | .composed c => c.allOf[1]?.bind (·.asObject?)
  | _ => none

namespace PolymorphicBase

/-- An object has the discriminator of a base, and requires its property. -/
structure IsCarriedBy (b : PolymorphicBase) (o : ObjectShape Schema) : Prop where
  discriminator : o.discriminator = some ⟨b.property, b.mapping⟩
  property : b.property ∈ Assoc.keys o.properties
  required : b.property ∈ o.required

/-- A schema is a choice between the subclasses of a base. -/
def IsOffered (b : PolymorphicBase) (s : Schema) : Prop :=
  ∃ c, s.asComposed? = some c ∧ c.allOf = [] ∧
    c.oneOf = b.classes.keys.map (fun name => .reference (simpleNameOf name)) ∧
    c.discriminator = some ⟨b.property, b.mapping⟩

end PolymorphicBase

variable {config : Config} {hooks : Hooks} {graph : TypeGraph} {bases : PolymorphismMap}
  {scope : Scope} {d : Document}

/-! ## The object of a base -/

theorem ownObject?_of_shape {s s' : Schema} (h : s.shape = s'.shape) :
    s.ownObject? = s'.ownObject? := by
  rw [Schema.ownObject?, Schema.ownObject?, h]

theorem ownObject?_classNode (t : TypeDescriptor) (ancestry : Ancestry) :
    (classNode scope t ancestry).ownObject? = some (objectOf scope ancestry.flattened t) := by
  rw [classNode]
  cases ancestry.parent with
  | none => rfl
  | some parent => rfl

theorem isCarriedBy_addTo (b : PolymorphicBase) (o : ObjectShape Schema) :
    b.IsCarriedBy (b.addTo o) := by
  refine ⟨rfl, ?_, mem_addName.2 (Or.inr rfl)⟩
  simp only [PolymorphicBase.addTo]
  split
  · next h => exact Assoc.contains_iff.1 h
  · simp [Assoc.keys]

theorem isCarriedBy_objectOf {t : TypeDescriptor} {b : PolymorphicBase}
    (hb : scope.polymorphicBase? t.name = some b) (flattened : List TypeDescriptor) :
    b.IsCarriedBy (objectOf scope flattened t) := by
  rw [objectOf, hb]
  exact isCarriedBy_addTo b _

/-! ## Fields that refer to a base -/

theorem isOffered_alternatives (b : PolymorphicBase) : b.IsOffered b.alternatives := by
  refine ⟨_, rfl, rfl, ?_, rfl⟩
  show b.components.map Schema.reference = _
  rw [PolymorphicBase.components, List.map_map]
  rfl

theorem isOffered_congr {b : PolymorphicBase} {s s' : Schema} (h : s.contents = s'.contents)
    (hs : b.IsOffered s) : b.IsOffered s' := by
  obtain ⟨c, hc, hrest⟩ := hs
  exact ⟨c, (Schema.asComposed?_congr h).symm.trans hc, hrest⟩

theorem leafNode?_base (h : IsScopeOf config hooks graph bases scope) {name : String}
    {b : PolymorphicBase} (hb : bases.get? name = some b) :
    leafNode? scope .polymorphic (.named name) = some b.alternatives := by
  obtain ⟨⟨t, ht, hname⟩, -⟩ := h.base_spec (Assoc.mem_of_get? hb)
  rw [leafNode?, namedNode, h.component?_eq_some_iff.2 ⟨ht, hname⟩, h.polymorphicBase?_eq, hb]

/-- Where a field refers to a base there is a choice between its subclasses. -/
theorem isOffered_field (h : IsScopeOf config hooks graph bases scope) {name : String}
    {b : PolymorphicBase} (hb : bases.get? name = some b) {f : FieldDescriptor}
    (hf : f.type.leaf = .named name) :
    ∃ node, f.type.innermost? (f.schema scope) = some node ∧ b.IsOffered node := by
  have hschema : schema? scope .polymorphic f.type = some (f.type.wrap b.alternatives) := by
    rw [schema?, hf, leafNode?_base h hb]
    rfl
  obtain ⟨node, hnode, heq⟩ :=
    TypeRef.innermost?_applyTo_wrap f.type f.directives b.alternatives
  refine ⟨node, ?_, ?_⟩
  · rw [FieldDescriptor.schema, hschema]
    exact hnode
  · rcases heq with rfl | rfl
    · exact isOffered_alternatives b
    · exact isOffered_congr (Schema.contents_applyTo _ _).symm (isOffered_alternatives b)

/-! ## No field refers to the component of a base -/

theorem leafNode?_flat {style : ReferenceStyle} {t : TypeRef} {s : Schema}
    (hs : leafNode? scope style t = some s) : s.items? = none ∧ s.values? = none := by
  cases t with
  | primitive kind boxed =>
    obtain rfl := Option.some.inj hs
    cases kind <;> exact ⟨rfl, rfl⟩
  | date | dateTime | uuid | file =>
    obtain rfl := Option.some.inj hs
    exact ⟨rfl, rfl⟩
  | named name =>
    obtain rfl := Option.some.inj hs
    unfold namedNode
    cases scope.component? name with
    | none => exact ⟨rfl, rfl⟩
    | some u =>
      cases style with
      | direct => exact ⟨rfl, rfl⟩
      | polymorphic =>
        cases scope.polymorphicBase? name with
        | none => exact ⟨rfl, rfl⟩
        | some b => exact ⟨rfl, rfl⟩
  | _ => cases hs

/-- A reference inside wrappers is the leaf. -/
theorem target?_of_within_wrap (t : TypeRef) {leaf node : Schema} (hi : leaf.items? = none)
    (hv : leaf.values? = none) {target : String} (hw : Schema.Within node (t.wrap leaf))
    (ht : node.target? = some target) : leaf.target? = some target := by
  induction t with
  | list element ih | array element ih =>
    cases hw with
    | self => cases ht
    | items h hin =>
      obtain rfl := Option.some.inj h
      exact ih hin
    | values h _ => cases h
  | map value ih =>
    cases hw with
    | self => cases ht
    | items h _ => cases h
    | values h hin =>
      obtain rfl := Option.some.inj h
      exact ih hin
  | envelope inner ih => exact ih hw
  | _ =>
    cases hw with
    | self => exact ht
    | items h _ => cases hi.symm.trans h
    | values h _ => cases hv.symm.trans h

theorem target?_of_within_text {node : Schema} (hw : Schema.Within node .text) :
    node.target? = none := by
  cases ht : node.target? with
  | none => rfl
  | some target => cases target?_of_within_wrap .void rfl rfl hw ht

/-- A reference among the leaves is that of a candidate that is no base. -/
theorem leafNode?_target (h : IsScopeOf config hooks graph bases scope) {t : TypeRef} {s : Schema}
    (hs : leafNode? scope .polymorphic t = some s) {target : String}
    (ht : s.target? = some target) :
    ∃ u ∈ candidateTypes config hooks graph, u.simpleName = target ∧ bases.get? u.name = none := by
  cases t with
  | primitive kind boxed =>
    obtain rfl := Option.some.inj hs
    cases kind <;> cases ht
  | date | dateTime | uuid | file =>
    obtain rfl := Option.some.inj hs
    cases ht
  | named name =>
    obtain rfl := Option.some.inj hs
    unfold namedNode at ht
    cases hc : scope.component? name with
    | none =>
      rw [hc] at ht
      cases ht
    | some u =>
      obtain ⟨hu, rfl⟩ := h.component?_eq_some_iff.1 hc
      rw [hc, h.polymorphicBase?_eq] at ht
      cases hb : bases.get? u.name with
      | none =>
        rw [hb] at ht
        exact ⟨u, hu, Option.some.inj ht, hb⟩
      | some b =>
        rw [hb] at ht
        cases ht
  | _ => cases hs

/-- Nothing in the schema of a field is a reference to the component of a base. -/
theorem target?_ne_of_within_field (h : IsScopeOf config hooks graph bases scope)
    (hn : ((candidateTypes config hooks graph).map (·.simpleName)).Nodup) {t : TypeDescriptor}
    (ht : t ∈ candidateTypes config hooks graph) {b : PolymorphicBase}
    (hb : bases.get? t.name = some b) {f : FieldDescriptor} {node : Schema}
    (hw : Schema.Within node (f.schema scope)) : node.target? ≠ some t.simpleName := by
  intro htarget
  -- directives change no reference, so it stands in the schema of the type
  have hplain : ∀ s, f.schema scope = f.directives.applyTo s →
      ∃ node', Schema.Within node' s ∧ node'.target? = some t.simpleName := by
    intro s heq
    rw [heq] at hw
    have hkeep := Schema.contents_applyTo f.directives s
    rcases hw.of_contents hkeep with rfl | hin
    · exact ⟨s, .self, (Schema.target?_congr hkeep).symm.trans htarget⟩
    · exact ⟨node, hin, htarget⟩
  cases hs : schema? scope .polymorphic f.type with
  | none =>
    obtain ⟨node', hin, hnode⟩ := hplain .genericObject (by rw [FieldDescriptor.schema, hs]; rfl)
    cases target?_of_within_wrap .void rfl rfl hin hnode
  | some s =>
    obtain ⟨leaf, hleaf, rfl⟩ := Option.map_eq_some_iff.1 hs
    obtain ⟨node', hin, hnode⟩ := hplain _ (by rw [FieldDescriptor.schema, hs, Option.getD_some])
    obtain ⟨hi, hv⟩ := leafNode?_flat hleaf
    obtain ⟨u, hu, hname, hnone⟩ :=
      leafNode?_target h hleaf (target?_of_within_wrap f.type hi hv hin hnode)
    rw [List.inj_on_of_nodup_map hn hu ht hname, hb] at hnone
    cases hnone

/-! ## The properties of a class -/

theorem get?_properties_objectOf {flattened : List TypeDescriptor} {t : TypeDescriptor}
    {name : String} {f : FieldDescriptor}
    (hf : (name, f) ∈ fieldTable (declaredFields flattened t)) :
    Assoc.get? (objectOf scope flattened t).properties name = some (f.schema scope) := by
  rw [properties_objectOf, Assoc.get?_append, Assoc.get?_mapValues,
    Assoc.get?_of_mem (nodup_keys_fieldTable _) hf]
  rfl

theorem mem_properties_objectOf {flattened : List TypeDescriptor} {t : TypeDescriptor}
    {name : String} {s : Schema} (hs : (name, s) ∈ (objectOf scope flattened t).properties) :
    (∃ f, s = FieldDescriptor.schema scope f) ∨ s = .text := by
  rw [properties_objectOf] at hs
  rcases List.mem_append.1 hs with hs | hs
  · obtain ⟨f, -, rfl⟩ := Assoc.mem_mapValues.1 hs
    exact Or.inl ⟨f, rfl⟩
  · cases hb : scope.polymorphicBase? t.name with
    | none =>
      rw [hb] at hs
      cases hs
    | some b =>
      rw [hb] at hs
      simp only at hs
      split at hs
      · cases hs
      · exact Or.inr (Prod.mk.inj (List.mem_singleton.1 hs)).2

/-! ## Whole documents -/

/-- The component of a candidate class has an object, which is that of its fields. -/
theorem exists_ownObject? (hz : hooks.interceptorCount = 0) {handlers : NamespaceMatcher}
    (hd : (generateIn config hooks graph scope handlers).result = .ok d) {t : TypeDescriptor}
    (ht : t ∈ candidateTypes config hooks graph) (henum : t.isEnum = false) :
    ∃ s ancestry, d.components.get? t.simpleName = some s ∧
      (resolveAncestry scope t).result = .ok ancestry ∧
      s.ownObject? = some (objectOf scope ancestry.flattened t) := by
  obtain ⟨s, hs, hget⟩ := (componentsAdded_of_generateIn hd).component t ht
  rcases (result_componentOf_eq_ok hz).1 hs with ⟨hc, -⟩ | ⟨-, ancestry, ha, -, rfl⟩
  · rw [henum] at hc
    cases hc
  · refine ⟨_, ancestry, hget, ha, ?_⟩
    rw [ownObject?_of_shape (Schema.shape_applyToType _ _), ownObject?_classNode]

/-- The bases of a document are resolved, and for each base the mapping is the inverse of its table
of subclasses. The object of a base carries this mapping and requires its property. Every field whose
type leads to the base is a choice between its subclasses at the place of the base, with the same
mapping, and nothing in any property is a reference to the component of the base. -/
theorem discriminators_agree (hz : hooks.interceptorCount = 0)
    (hg : (generate config hooks graph).result = .ok d) :
    ∃ bases scope, (polymorphicBases config hooks graph).result = .ok bases ∧
      IsScopeOf config hooks graph bases scope ∧
      ∀ name b, bases.get? name = some b → b.IsInverted ∧
        ∃ t ∈ candidateTypes config hooks graph, t.name = name ∧
          (t.isEnum = false → ∃ s o, d.components.get? t.simpleName = some s ∧
            s.ownObject? = some o ∧ b.IsCarriedBy o) ∧
          ∀ u ∈ candidateTypes config hooks graph, u.isEnum = false →
            ∃ s o ancestry, d.components.get? u.simpleName = some s ∧ s.ownObject? = some o ∧
              (resolveAncestry scope u).result = .ok ancestry ∧
              (∀ property f, (property, f) ∈ fieldTable (declaredFields ancestry.flattened u) →
                ∃ schema, Assoc.get? o.properties property = some schema ∧
                  (f.type.leaf = .named name →
                    ∃ node, f.type.innermost? schema = some node ∧ b.IsOffered node)) ∧
              ∀ property schema, (property, schema) ∈ o.properties →
                ∀ node, Schema.Within node schema → node.target? ≠ some t.simpleName := by
  obtain ⟨bases, scope, handlers, h, -, hd⟩ := result_generate_eq_ok.1 hg
  have hsimple := (componentsAdded_of_generateIn hd).nodup_simpleNames
  refine ⟨bases, scope, h.bases_eq, h, fun name b hb => ?_⟩
  obtain ⟨⟨t, ht, rfl⟩, hbase⟩ := h.base_spec (Assoc.mem_of_get? hb)
  refine ⟨hbase.isInverted hsimple, t, ht, rfl, ?_, ?_⟩
  · intro henum
    obtain ⟨s, ancestry, hget, -, hown⟩ := exists_ownObject? hz hd ht henum
    exact ⟨s, _, hget, hown,
      isCarriedBy_objectOf ((h.polymorphicBase?_eq t.name).trans hb) ancestry.flattened⟩
  · intro u hu henum
    obtain ⟨s, ancestry, hget, ha, hown⟩ := exists_ownObject? hz hd hu henum
    refine ⟨s, _, ancestry, hget, hown, ha, ?_, ?_⟩
    · exact fun property f hf => ⟨_, get?_properties_objectOf hf, isOffered_field h hb⟩
    · intro property schema hmem node hw
      rcases mem_properties_objectOf hmem with ⟨f, rfl⟩ | rfl
      · exact target?_ne_of_within_field h hsimple ht hb hw
      · rw [target?_of_within_text hw]
        exact nofun

/-- The configuration of a gallery. -/
def galleryConfig : Config := { modelNamespaces := ["gallery"] }

/-- A base that is a subclass of another type and lists itself, and a field that leads to it. -/
def galleryGraph : TypeGraph where
  types := [
    { name := "gallery.Shape"
      superclass := some "gallery.Item"
      directives := [.polymorphic (some "kind")
        [⟨"gallery.Circle", some "circle"⟩, ⟨"gallery.Shape", none⟩]] },
    { name := "gallery.Item", fields := [{ name := "id", type := .text }] },
    { name := "gallery.Circle", superclass := some "gallery.Shape" },
    { name := "gallery.Room"
      fields := [{ name := "walls", type := .map (.list (.named "gallery.Shape")) }] }]
  nodup_names := by decide +kernel

/-- The base of the gallery. -/
def galleryBase : PolymorphicBase :=
  ⟨"kind", [("gallery.Circle", "circle"), ("gallery.Shape", "Shape")]⟩

theorem discriminators_agree_gallery :
    Hooks.none.interceptorCount = 0 ∧
      ∃ d, (generate galleryConfig Hooks.none galleryGraph).result = .ok d ∧
        galleryBase.IsInverted ∧ ∃ s o, d.components.get? "Shape" = some s ∧
          s.ownObject? = some o ∧ galleryBase.IsCarriedBy o := by
  obtain ⟨d, hd⟩ := exists_eq_ok_of_toBool
    (show (generate galleryConfig Hooks.none galleryGraph).result.toBool = true by decide +kernel)
  have hbases : (polymorphicBases galleryConfig Hooks.none galleryGraph).result =
      .ok [("gallery.Shape", galleryBase)] := by decide +kernel
  obtain ⟨bases, scope, hb, -, hall⟩ := discriminators_agree rfl hd
  obtain rfl := Except.ok.inj (hbases.symm.trans hb)
  obtain ⟨hinverted, t, ht, hname, hcarried, -⟩ := hall "gallery.Shape" galleryBase rfl
  have hclass : t.isEnum = false ∧ t.simpleName = "Shape" := by
    have hshape : ∀ u ∈ galleryGraph.types, u.name = "gallery.Shape" →
        u.isEnum = false ∧ u.simpleName = "Shape" := by decide +kernel
    exact hshape t (mem_types_of_mem_candidateTypes ht) hname
  rw [hclass.2] at hcarried
  exact ⟨rfl, d, hd, hinverted, hcarried hclass.1⟩

end ApiContract
