import ApiContract.OpenApi.Specification
import ApiContract.Proofs.Discriminators
import ApiContract.Proofs.Parts
import ApiContract.Proofs.SpecificationReferences
import ApiContract.Proofs.StatedSchemas
/-!
# Distinct names in objects

No object of a document names a property twice or requires a name twice, whatever the interceptors
do, as long as they change objects by inserting properties and by requiring names. The properties of
a class come from copied superclasses, from its own fields and from its discriminator, and each step
keeps names distinct.

* `Schema.MayBecome` : what such an interceptor may make of a schema.
* `Hooks.EditsObjects` : all interceptors of schemas and fields are of this kind.
* `MayBecome.namesDiffer` : an edit keeps names distinct.
* `namesDiffer_componentOf` : so does the making of a component.
* `count_required_hookedObject` : what the interceptors leave required is required once.
* `SchemaObject.HasDistinctNames`, `hasDistinctNames_toObject` : the same for specifications.
* `names_stay_distinct` : the statement for whole documents.
-/

namespace ApiContract

/-! ## Edits -/

namespace Schema

/-- What an interceptor may make of a schema: anything that stands in it, anything assembled from
such schemas, and objects in which properties are inserted and names are required. -/
inductive MayBecome (s : Schema) : Schema → Prop
  | inside {node : Schema} (h : Inside node s) : MayBecome s node
  | assembled {node : Schema} (ho : node.asObject? = none)
      (hp : ∀ p ∈ node.parts, MayBecome s p) : MayBecome s node
  | emptyObject : MayBecome s (.object {})
  | insertProperty {node p : Schema} (name : String) (required : Bool) (hn : MayBecome s node)
      (hp : MayBecome s p) : MayBecome s (node.mapObject (·.insertProperty name p required))
  | require {node : Schema} (name : String) (hn : MayBecome s node) :
      MayBecome s (node.mapObject (·.require name))
  | discriminate {node : Schema} (discriminator : Option Discriminator) (hn : MayBecome s node) :
      MayBecome s (node.mapObject fun o => { o with discriminator })
  | extend {node : Schema} (additional : Option Schema) (hn : MayBecome s node)
      (ha : ∀ v ∈ additional, MayBecome s v) :
      MayBecome s (node.mapObject fun o => { o with additional })
  | mark {node node' : Schema} (hn : MayBecome s node) (h : node'.shape = node.shape) :
      MayBecome s node'

/-- If a schema is an object, no name occurs in it twice. -/
def NamesDiffer (s : Schema) : Prop := ∀ o, s.asObject? = some o → o.HasDistinctNames

variable {s s' node : Schema}

theorem namesDiffer_of_asObject? (h : s.asObject? = none) : s.NamesDiffer := by
  intro o ho
  cases h.symm.trans ho

theorem IsNoRecord.namesDiffer (h : s.IsNoRecord) : s.NamesDiffer := by
  intro o ho
  obtain ⟨hproperties, hrequired⟩ := h o ho
  refine ⟨?_, ?_⟩
  · rw [ObjectShape.propertyNames, hproperties]
    exact List.nodup_nil
  · rw [hrequired]
    exact List.nodup_nil

/-- Names differ everywhere in an object if they do in the object itself and in its parts. -/
theorem namesDiffer_object {o : ObjectShape Schema} (ho : o.HasDistinctNames)
    (hparts : ∀ p ∈ Assoc.values o.properties ++ o.additional.toList, p.Everywhere NamesDiffer) :
    (object o).Everywhere NamesDiffer := by
  refine everywhere_iff.2 ⟨fun o' ho' => ?_, hparts⟩
  obtain rfl := Option.some.inj ho'
  exact ho

/-- A change of objects keeps names distinct if it does so for each object with distinct names, and
adds no parts in which names are repeated. -/
theorem namesDiffer_mapObject {f : ObjectShape Schema → ObjectShape Schema}
    (hn : node.Everywhere NamesDiffer)
    (hf : ∀ o : ObjectShape Schema, o.HasDistinctNames → (f o).HasDistinctNames)
    (hparts : ∀ o : ObjectShape Schema,
      ∀ p ∈ Assoc.values (f o).properties ++ (f o).additional.toList,
        p ∈ Assoc.values o.properties ++ o.additional.toList ∨ p.Everywhere NamesDiffer) :
    (node.mapObject f).Everywhere NamesDiffer := by
  obtain ⟨shape, description, deprecated, access⟩ := node
  cases shape with
  | object o =>
    obtain ⟨hself, hold⟩ := everywhere_iff.1 hn
    refine everywhere_iff.2 ⟨fun o' ho' => ?_, fun p hp => ?_⟩
    · obtain rfl := Option.some.inj ho'
      exact hf o (hself o rfl)
    · rcases hparts o p hp with hp | hp
      · exact hold p hp
      · exact hp
  | _ => exact hn

/-- An edit keeps names distinct. -/
theorem MayBecome.namesDiffer (h : s.MayBecome s') (hs : s.Everywhere NamesDiffer) :
    s'.Everywhere NamesDiffer := by
  induction h with
  | inside hin => exact hs.of_inside hin
  | assembled ho _ ih => exact everywhere_iff.2 ⟨namesDiffer_of_asObject? ho, ih⟩
  | emptyObject => exact namesDiffer_object ObjectShape.hasDistinctNames_empty (by simp [Assoc.values])
  | @insertProperty node inserted name required _ _ ihn ihp =>
    refine namesDiffer_mapObject ihn (fun o ho => ho.insertProperty name inserted required)
      fun o p hp => ?_
    rcases List.mem_append.1 hp with hp | hp
    · obtain ⟨key, hp⟩ := Assoc.mem_values_iff.1 hp
      rcases Assoc.mem_of_mem_insert hp with heq | hp
      · obtain ⟨-, rfl⟩ := Prod.mk.inj heq
        exact Or.inr ihp
      · exact Or.inl (List.mem_append_left _ (Assoc.mem_values_iff.2 ⟨key, hp⟩))
    · exact Or.inl (List.mem_append_right _ hp)
  | require name _ ihn =>
    exact namesDiffer_mapObject ihn (fun o ho => ho.require name) fun o p hp => Or.inl hp
  | discriminate _ _ ihn =>
    refine namesDiffer_mapObject ihn (fun o ho => ?_) fun o p hp => Or.inl hp
    exact ⟨ho.nodup_properties, ho.nodup_required⟩
  | extend additional _ _ ihn iha =>
    refine namesDiffer_mapObject ihn (fun o ho => ⟨ho.nodup_properties, ho.nodup_required⟩)
      fun o p hp => ?_
    rcases List.mem_append.1 hp with hp | hp
    · exact Or.inl (List.mem_append_left _ hp)
    · exact Or.inr (iha p (Option.mem_toList.1 hp))
  | mark _ hshape ihn =>
    have hkeep := contents_congr hshape
    exact ihn.congr hkeep fun o ho => ihn.of_self o ((asObject?_congr hkeep).symm.trans ho)

end Schema

open Schema (NamesDiffer)

/-- The interceptors of schemas and fields change objects by inserting properties and requiring
names. -/
structure Hooks.EditsObjects (hooks : Hooks) : Prop where
  schemas : ∀ f ∈ hooks.schemaInterceptors, ∀ scope t s, Schema.MayBecome s (f scope t s)
  fields : ∀ f ∈ hooks.fieldInterceptors, ∀ scope owner field p,
    Schema.MayBecome p.schema (f scope owner field p).schema

variable {config : Config} {hooks : Hooks} {graph : TypeGraph} {bases : PolymorphismMap}
  {scope : Scope} {d : Document} {t : TypeDescriptor} {flattened : List TypeDescriptor}

theorem Hooks.EditsObjects.interceptSchema (h : hooks.EditsObjects) {s : Schema}
    (hs : s.Everywhere NamesDiffer) :
    (hooks.interceptSchema scope t s).Everywhere NamesDiffer :=
  List.foldlRecOn hooks.schemaInterceptors _ hs fun _ ih f hf =>
    (h.schemas f hf scope t _).namesDiffer ih

theorem Hooks.EditsObjects.interceptField (h : hooks.EditsObjects) {owner : TypeDescriptor}
    {field : FieldDescriptor} {p : Property} (hp : p.schema.Everywhere NamesDiffer) :
    (hooks.interceptField scope owner field p).schema.Everywhere NamesDiffer := by
  have hstep : ∀ q : Property, q.schema.Everywhere NamesDiffer →
      ∀ f ∈ hooks.fieldInterceptors, (f scope owner field q).schema.Everywhere NamesDiffer :=
    fun q hq f hf => (h.fields f hf scope owner field q).namesDiffer hq
  exact List.foldlRecOn (motive := fun q : Property => q.schema.Everywhere NamesDiffer)
    hooks.fieldInterceptors _ hp hstep

/-! ## Objects of classes -/

theorem mem_classProperties {name : String} {p : Property} :
    (name, p) ∈ classProperties scope hooks flattened t ↔
      ∃ owner f, (owner = t ∨ owner ∈ flattened) ∧ f ∈ owner.fields ∧ f.isMapped = true ∧
        f.name = name ∧ hooks.interceptField scope owner f (f.property scope) = p := by
  simp only [classProperties, hookedProperties, List.mem_flatMap, List.mem_append,
    List.mem_reverse, List.mem_singleton, List.mem_map, List.mem_filter, Prod.mk.injEq]
  constructor
  · rintro ⟨owner, howner, f, ⟨hf, hm⟩, hname, hp⟩
    exact ⟨owner, f, howner.symm, hf, hm, hname, hp⟩
  · rintro ⟨owner, f, howner, hf, hm, hname, hp⟩
    exact ⟨owner, howner.symm, f, ⟨hf, hm⟩, hname, hp⟩

/-- A base has its discriminator property among its properties, once. -/
theorem propertyNames_addTo (b : PolymorphicBase) (o : ObjectShape Schema) :
    (b.addTo o).propertyNames = addName o.propertyNames b.property := by
  show Assoc.keys (if Assoc.contains o.properties b.property then o.properties
    else o.properties ++ [(b.property, .text)]) = _
  unfold addName ObjectShape.propertyNames
  by_cases hthere : b.property ∈ Assoc.keys o.properties
  · rw [if_pos hthere, if_pos (Assoc.contains_iff.2 hthere)]
  · rw [if_neg hthere, if_neg fun h => hthere (Assoc.contains_iff.1 h), Assoc.keys_append]
    rfl

theorem ObjectShape.HasDistinctNames.addTo {o : ObjectShape Schema} (h : o.HasDistinctNames)
    (b : PolymorphicBase) : (b.addTo o).HasDistinctNames where
  nodup_properties := by
    rw [propertyNames_addTo]
    exact nodup_addName h.nodup_properties b.property
  nodup_required := nodup_addName h.nodup_required b.property

theorem hasDistinctNames_hookedObject (scope : Scope) (hooks : Hooks)
    (flattened : List TypeDescriptor) (t : TypeDescriptor) :
    (hookedObject scope hooks flattened t).HasDistinctNames := by
  have hfields := ObjectShape.hasDistinctNames_empty.insertAll
    (classProperties scope hooks flattened t)
  rw [hookedObject]
  cases scope.polymorphicBase? t.name with
  | none => exact hfields
  | some b => exact hfields.addTo b

/-- The properties of a class are those of its fields, and the discriminator property. -/
theorem mem_properties_hookedObject {name : String} {s : Schema}
    (h : (name, s) ∈ (hookedObject scope hooks flattened t).properties) :
    (∃ p, (name, p) ∈ classProperties scope hooks flattened t ∧ p.schema = s) ∨ s = .text := by
  have hfields : ∀ q ∈ (ObjectShape.insertAll {} (classProperties scope hooks flattened t)).properties,
      ∃ p, (q.1, p) ∈ classProperties scope hooks flattened t ∧ p.schema = q.2 := by
    intro q hq
    rw [ObjectShape.properties_insertAll] at hq
    rcases Assoc.mem_of_mem_foldl_insert hq with hq | hq
    · cases hq
    · obtain ⟨⟨name, p⟩, hp, rfl⟩ := List.mem_map.1 hq
      exact ⟨p, hp, rfl⟩
  rw [hookedObject] at h
  cases hb : scope.polymorphicBase? t.name with
  | none =>
    rw [hb] at h
    exact Or.inl (hfields _ h)
  | some b =>
    rw [hb] at h
    simp only [PolymorphicBase.addTo] at h
    split at h
    · exact Or.inl (hfields _ h)
    · rcases List.mem_append.1 h with h | h
      · exact Or.inl (hfields _ h)
      · exact Or.inr (Prod.mk.inj (List.mem_singleton.1 h)).2

theorem additional_hookedObject (scope : Scope) (hooks : Hooks) (flattened : List TypeDescriptor)
    (t : TypeDescriptor) : (hookedObject scope hooks flattened t).additional = none := by
  rw [hookedObject]
  cases scope.polymorphicBase? t.name with
  | none => exact (ObjectShape.discriminator_insertAll _ _).2
  | some b => exact (ObjectShape.discriminator_insertAll _ _).2

theorem namesDiffer_hookedObject (h : hooks.EditsObjects) (flattened : List TypeDescriptor)
    (t : TypeDescriptor) :
    (Schema.object (hookedObject scope hooks flattened t)).Everywhere NamesDiffer := by
  refine Schema.namesDiffer_object (hasDistinctNames_hookedObject scope hooks flattened t)
    fun p hp => ?_
  rw [additional_hookedObject, Option.toList_none, List.append_nil] at hp
  obtain ⟨name, hp⟩ := Assoc.mem_values_iff.1 hp
  rcases mem_properties_hookedObject hp with ⟨q, hq, rfl⟩ | rfl
  · obtain ⟨owner, f, -, -, -, -, rfl⟩ := mem_classProperties.1 hq
    exact h.interceptField ((isNoRecord_field f).mono fun _ => Schema.IsNoRecord.namesDiffer)
  · exact Schema.everywhere_of_parts_eq_nil (Schema.namesDiffer_of_asObject? rfl) rfl

/-- In a component names are distinct at every depth. -/
theorem namesDiffer_componentOf (h : hooks.EditsObjects) {s : Schema}
    (hs : (componentOf scope hooks t).result = .ok s) : s.Everywhere NamesDiffer := by
  have hmarked : ∀ s : Schema, s.Everywhere NamesDiffer →
      (t.directives.applyToType s).Everywhere NamesDiffer := fun s hs =>
    hs.congr (Schema.contents_congr (Schema.shape_applyToType _ _)) hs.of_self
  rcases result_componentOf_iff.1 hs with ⟨-, rfl⟩ | ⟨-, ancestry, -, -, rfl⟩
  · exact h.interceptSchema (hmarked _
      (Schema.everywhere_of_parts_eq_nil (Schema.namesDiffer_of_asObject? rfl) rfl))
  · refine h.interceptSchema (hmarked _ ?_)
    have hobject : (Schema.object (hookedObject scope hooks ancestry.flattened t)).Everywhere
        NamesDiffer := namesDiffer_hookedObject h ancestry.flattened t
    rw [Ancestry.schemaWith]
    cases ancestry.parent with
    | none => exact hobject
    | some parent =>
      refine Schema.everywhere_iff.2 ⟨Schema.namesDiffer_of_asObject? rfl, fun p hp => ?_⟩
      rcases List.mem_cons.1 hp with rfl | hp
      · exact Schema.everywhere_of_parts_eq_nil (Schema.namesDiffer_of_asObject? rfl) rfl
      · obtain rfl := List.mem_singleton.1 hp
        exact hobject

/-! ## Required names of classes -/

/-- What is required in the object of a class: the fields that are required after the interceptors,
and the discriminator property. -/
theorem mem_required_hookedObject {name : String} :
    name ∈ (hookedObject scope hooks flattened t).required ↔
      (∃ p, (name, p) ∈ classProperties scope hooks flattened t ∧ p.required = true) ∨
      ∃ b, scope.polymorphicBase? t.name = some b ∧ b.property = name := by
  have hfields : name ∈ (ObjectShape.insertAll {}
      (classProperties scope hooks flattened t)).required ↔
      ∃ p, (name, p) ∈ classProperties scope hooks flattened t ∧ p.required = true := by
    rw [ObjectShape.mem_required_insertAll]
    constructor
    · rintro (h | ⟨⟨key, p⟩, hp, rfl, hrequired⟩)
      · cases h
      · exact ⟨p, hp, hrequired⟩
    · rintro ⟨p, hp, hrequired⟩
      exact Or.inr ⟨(name, p), hp, rfl, hrequired⟩
  rw [hookedObject, ← hfields]
  cases scope.polymorphicBase? t.name with
  | none => simp
  | some b => simp [PolymorphicBase.addTo, mem_addName]

theorem mem_propertyNames_hookedObject {name : String} :
    name ∈ (hookedObject scope hooks flattened t).propertyNames ↔
      (∃ p, (name, p) ∈ classProperties scope hooks flattened t) ∨
      ∃ b, scope.polymorphicBase? t.name = some b ∧ b.property = name := by
  have hfields : name ∈ (ObjectShape.insertAll {}
      (classProperties scope hooks flattened t)).propertyNames ↔
      ∃ p, (name, p) ∈ classProperties scope hooks flattened t := by
    rw [ObjectShape.mem_propertyNames_insertAll]
    constructor
    · rintro (h | ⟨⟨key, p⟩, hp, rfl⟩)
      · cases h
      · exact ⟨p, hp⟩
    · rintro ⟨p, hp⟩
      exact Or.inr ⟨(name, p), hp, rfl⟩
  rw [← hfields, hookedObject]
  cases scope.polymorphicBase? t.name with
  | none => simp
  | some b => simp [propertyNames_addTo, mem_addName]

/-- A field that the interceptors leave required is required exactly once. -/
theorem count_required_hookedObject {owner : TypeDescriptor} {f : FieldDescriptor}
    (howner : owner = t ∨ owner ∈ flattened) (hf : f ∈ owner.fields) (hm : f.isMapped = true)
    (hrequired : (hooks.interceptField scope owner f (f.property scope)).required = true) :
    (hookedObject scope hooks flattened t).required.count f.name = 1 := by
  have hmem : f.name ∈ (hookedObject scope hooks flattened t).required :=
    mem_required_hookedObject.2
      (Or.inl ⟨_, mem_classProperties.2 ⟨owner, f, howner, hf, hm, rfl, rfl⟩, hrequired⟩)
  exact List.count_eq_one_of_mem
    (hasDistinctNames_hookedObject scope hooks flattened t).nodup_required hmem

theorem mem_propertyNames_of_required {name : String}
    (h : name ∈ (hookedObject scope hooks flattened t).required) :
    name ∈ (hookedObject scope hooks flattened t).propertyNames := by
  rcases mem_required_hookedObject.1 h with ⟨p, hp, -⟩ | hbase
  · exact mem_propertyNames_hookedObject.2 (Or.inl ⟨p, hp⟩)
  · exact mem_propertyNames_hookedObject.2 (Or.inr hbase)

theorem ownObject?_schemaWith (ancestry : Ancestry) (o : ObjectShape Schema) :
    (ancestry.schemaWith scope t o).ownObject? = some o := by
  rw [Ancestry.schemaWith]
  cases ancestry.parent with
  | none => rfl
  | some parent => rfl

/-! ## Specifications -/

namespace SchemaObject

/-- No name occurs twice among the properties or in the array of required names. -/
structure HasDistinctNames (x : SchemaObject) : Prop where
  nodup_properties : (Assoc.keys x.properties).Nodup
  nodup_required : x.required.Nodup

end SchemaObject

namespace Schema

theorem hasDistinctNames_toObject {s : Schema} (h : s.NamesDiffer) :
    s.toObject.HasDistinctNames := by
  obtain ⟨shape, description, deprecated, access⟩ := s
  cases shape with
  | object o =>
    obtain ⟨properties, required, discriminator, additional⟩ := o
    obtain ⟨hproperties, hrequired⟩ := h _ rfl
    rw [toObject, toProperties_eq_mapValues]
    refine ⟨?_, hrequired⟩
    show (Assoc.keys (Assoc.mapValues toObject properties)).Nodup
    rw [Assoc.keys_mapValues]
    exact hproperties
  | reference target =>
    rw [toObject, referenceObject]
    split
    · exact ⟨List.nodup_nil, List.nodup_nil⟩
    · exact ⟨List.nodup_nil, List.nodup_nil⟩
  | _ =>
    rw [toObject]
    exact ⟨List.nodup_nil, List.nodup_nil⟩

/-- If names differ everywhere in a schema, they do everywhere in its object. -/
theorem hasDistinctNames_of_inside_toObject {s : Schema} {x : SchemaObject}
    (hs : s.Everywhere NamesDiffer) (h : SchemaObject.Inside x s.toObject) :
    x.HasDistinctNames := by
  obtain ⟨node, hnode, rfl | ⟨target, -, rfl⟩⟩ := exists_node_of_inside_toObject h
  · exact hasDistinctNames_toObject (hs node hnode)
  · exact ⟨List.nodup_nil, List.nodup_nil⟩

end Schema

/-! ## Whole documents -/

/-- In an object node the names of the properties and the required names are pairwise distinct, at
every depth of every component and of every schema of the specification, under all interceptors that
change objects by inserting properties and requiring names. Without interceptors of schemas, the
object of a class requires each field that the interceptors of fields leave required exactly once,
requires its properties only, and requires the discriminator property of a base. Insertion of
properties keeps the places of the names that are there, takes the last schema of each name, and
removes no required name. -/
theorem names_stay_distinct (config : Config) (hooks : Hooks) (graph : TypeGraph) :
    (∀ d, hooks.EditsObjects → (generate config hooks graph).result = .ok d →
      (∀ key s, (key, s) ∈ d.components → ∀ node o, Schema.Inside node s →
        node.asObject? = some o → o.HasDistinctNames) ∧
      ∀ servers key x, (key, x) ∈ (Specification.ofDocument d servers).schemas →
        ∀ node, SchemaObject.Inside node x → node.HasDistinctNames) ∧
    (∀ d, hooks.schemaInterceptors = [] → (generate config hooks graph).result = .ok d →
      ∃ bases scope, IsScopeOf config hooks graph bases scope ∧
        ∀ t ∈ candidateTypes config hooks graph, t.isEnum = false →
          ∃ s o ancestry, d.components.get? t.simpleName = some s ∧ s.ownObject? = some o ∧
            (resolveAncestry scope t).result = .ok ancestry ∧
            (∀ owner f, owner = t ∨ owner ∈ ancestry.flattened → f ∈ owner.fields →
              f.isMapped = true →
              (hooks.interceptField scope owner f (f.property scope)).required = true →
              o.required.count f.name = 1) ∧
            (∀ name ∈ o.required, name ∈ o.propertyNames) ∧
            ∀ b, bases.get? t.name = some b →
              b.property ∈ o.propertyNames ∧ b.property ∈ o.required) ∧
    ∀ (o : ObjectShape Schema) (ps : List (String × Property)),
      o.propertyNames <+: (o.insertAll ps).propertyNames ∧
      o.required <+: (o.insertAll ps).required ∧
      ∀ name, Assoc.get? (o.insertAll ps).properties name =
        ((ps.reverse.find? (·.1 == name)).map (·.2.schema)).or (Assoc.get? o.properties name) := by
  refine ⟨fun d hedits hg => ?_, fun d hnone hg => ?_, fun o ps => ⟨o.keys_prefix_insertAll ps,
    o.required_prefix_insertAll ps, o.get?_insertAll ps⟩⟩
  · obtain ⟨bases, scope, handlers, -, -, hd⟩ := result_generate_eq_ok.1 hg
    have hcomponents : ∀ key s, (key, s) ∈ d.components → s.Everywhere NamesDiffer := by
      intro key s hs
      obtain ⟨t, -, -, hcomponent⟩ := (componentsAdded_of_generateIn hd).exists_type hs
      exact namesDiffer_componentOf hedits hcomponent
    refine ⟨fun key s hs node o hin ho => hcomponents key s hs node hin o ho, ?_⟩
    intro servers key x hx node hin
    rw [schemas_ofDocument] at hx
    obtain ⟨s, hs, rfl⟩ := Assoc.mem_mapValues.1 hx
    exact Schema.hasDistinctNames_of_inside_toObject (hcomponents key s hs) hin
  · obtain ⟨bases, scope, handlers, h, -, hd⟩ := result_generate_eq_ok.1 hg
    refine ⟨bases, scope, h, fun t ht henum => ?_⟩
    obtain ⟨s, hs, hget⟩ := (componentsAdded_of_generateIn hd).component t ht
    rcases result_componentOf_iff.1 hs with ⟨hc, -⟩ | ⟨-, ancestry, ha, -, rfl⟩
    · rw [henum] at hc
      cases hc
    refine ⟨_, hookedObject scope hooks ancestry.flattened t, ancestry, hget, ?_, ha, ?_, ?_, ?_⟩
    · rw [Hooks.interceptSchema, hnone, List.foldl_nil,
        ownObject?_of_shape (Schema.shape_applyToType _ _), ownObject?_schemaWith]
    · exact fun owner f howner hf hm hrequired =>
        count_required_hookedObject howner hf hm hrequired
    · exact fun name hname => mem_propertyNames_of_required hname
    · intro b hb
      have hbase : scope.polymorphicBase? t.name = some b := (h.polymorphicBase?_eq t.name).trans hb
      exact ⟨mem_propertyNames_hookedObject.2 (Or.inr ⟨b, hbase, rfl⟩),
        mem_required_hookedObject.2 (Or.inr ⟨b, hbase, rfl⟩)⟩

/-- The configuration of a market. -/
def marketConfig : Config := { modelNamespaces := ["market"] }

/-- The price of a stall. -/
def stallPrice : FieldDescriptor := { name := "price", type := .unboxed .double }

/-- What is said of a stall, which need not be given. -/
def stallNote : FieldDescriptor := { name := "note", type := .text }

/-- A base that repeats the name of a field of its superclass, and has a field with the name of its
discriminator property. -/
def marketStall : TypeDescriptor where
  name := "market.Stall"
  superclass := some "trade.Listed"
  fields := [stallPrice, { name := "kind", type := .text }, stallNote]
  directives := [.polymorphic (some "kind") [⟨"market.Booth", none⟩]]

/-- The superclass lies outside the namespace, so its fields are copied. -/
def marketGraph : TypeGraph where
  types := [
    { name := "trade.Listed", fields := [{ name := "price", type := .text }] }, marketStall,
    { name := "market.Booth", superclass := some "market.Stall" }]
  nodup_names := by decide +kernel

/-- Hooks that require every field. -/
def requiringHooks : Hooks where
  fieldInterceptors := [fun _ _ _ p => { p with required := true }]

/-- The same hooks with one that inserts a property into every object and requires it twice. -/
def insertingHooks : Hooks where
  fieldInterceptors := requiringHooks.fieldInterceptors
  schemaInterceptors := [fun _ _ s =>
    (s.mapObject (·.insertProperty "price" .text true)).mapObject (·.require "price")]

theorem editsObjects_insertingHooks : insertingHooks.EditsObjects where
  schemas := by
    intro f hf scope t s
    obtain rfl := List.mem_singleton.1 hf
    exact .require "price" (.insertProperty "price" true (.inside .self)
      (.assembled rfl (by simp [Schema.parts, Schema.text, Schema.ofShape])))
  fields := by
    intro f hf scope owner field p
    obtain rfl := List.mem_singleton.1 hf
    exact .inside .self

/-- The price is required anyway and the note by the interceptors only, and each once. -/
theorem names_stay_distinct_market :
    insertingHooks.EditsObjects ∧
    (∃ d, (generate marketConfig insertingHooks marketGraph).result = .ok d ∧
      d.components.keys = ["Booth", "Stall"] ∧
      ∀ key s, (key, s) ∈ d.components → ∀ node o, Schema.Inside node s →
        node.asObject? = some o → o.HasDistinctNames) ∧
    requiringHooks.schemaInterceptors = [] ∧
    ∃ d, (generate marketConfig requiringHooks marketGraph).result = .ok d ∧
      ∃ s o, d.components.get? "Stall" = some s ∧ s.ownObject? = some o ∧
        o.required.count "price" = 1 ∧ o.required.count "note" = 1 ∧
        (∀ name ∈ o.required, name ∈ o.propertyNames) ∧
        ∃ d' s' o', (generate marketConfig Hooks.none marketGraph).result = .ok d' ∧
          d'.components.get? "Stall" = some s' ∧ s'.ownObject? = some o' ∧
          o'.required = ["price", "kind"] := by
  obtain ⟨d, hd⟩ := exists_eq_ok_of_toBool
    (show (generate marketConfig insertingHooks marketGraph).result.toBool = true by decide +kernel)
  have hkeys : (generate marketConfig insertingHooks marketGraph).result.map
      (·.components.keys) = .ok ["Booth", "Stall"] := by decide +kernel
  rw [hd] at hkeys
  obtain ⟨d', hd'⟩ := exists_eq_ok_of_toBool
    (show (generate marketConfig requiringHooks marketGraph).result.toBool = true by decide +kernel)
  have hplain : ((generate marketConfig Hooks.none marketGraph).result.map fun d =>
      ((d.components.get? "Stall").bind (·.ownObject?)).map (·.required)) =
        .ok (some ["price", "kind"]) := by decide +kernel
  obtain ⟨d₀, hd₀, hplain⟩ := exceptMap_eq_ok.1 hplain
  obtain ⟨o₀, hown₀, hrequired₀⟩ := Option.map_eq_some_iff.1 hplain
  obtain ⟨s₀, hget₀, hown₀⟩ := Option.bind_eq_some_iff.1 hown₀
  have hstall : marketStall ∈ candidateTypes marketConfig requiringHooks marketGraph := by
    decide +kernel
  obtain ⟨bases, scope, -, hall⟩ :=
    (names_stay_distinct marketConfig requiringHooks marketGraph).2.1 d' rfl hd'
  obtain ⟨s, o, ancestry, hget, hown, -, hcount, hnames, -⟩ :=
    hall marketStall hstall rfl
  refine ⟨editsObjects_insertingHooks, ⟨d, hd, Except.ok.inj hkeys, ?_⟩, rfl, d', hd', s, o, hget,
    hown, ?_, ?_, hnames, d₀, s₀, o₀, hd₀, hget₀, hown₀, hrequired₀⟩
  · exact ((names_stay_distinct marketConfig insertingHooks marketGraph).1 d
      editsObjects_insertingHooks hd).1
  · exact hcount marketStall stallPrice (Or.inl rfl) (List.mem_cons_self ..) rfl rfl
  · have hnote : stallNote ∈ marketStall.fields := by decide
    exact hcount marketStall stallNote (Or.inl rfl) hnote rfl rfl

end ApiContract
