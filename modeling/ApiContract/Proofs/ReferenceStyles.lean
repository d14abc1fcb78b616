import ApiContract.Proofs.Discriminators
import ApiContract.Proofs.Origins
import ApiContract.Proofs.Parts
import ApiContract.Proofs.Payloads
/-!
# Two ways to refer to a base

In the fields of components a polymorphic base is a choice between its subclasses; in operations it
is a plain reference to its component. The two never mix: no operation contains a choice, and no
property refers to the component of a base outside a choice.

* `Schema.OutsideAlternatives` : what stands in a schema without being an alternative.
* `Schema.IsPropertyIn` : the properties of all objects that stand in a schema.
* `schemaOf_direct_eq` : operations are described as if there were no bases.
* `reference_styles_apart` : the statement for whole documents.
-/

namespace ApiContract

namespace Schema

/-- The parts of a schema that are no alternatives. -/
def commonParts (s : Schema) : List Schema :=
  match s.shape with
  | .composed c => c.allOf
  | _ => s.parts

/-- A schema stands in another one, and is reached without going through alternatives. -/
inductive OutsideAlternatives (node : Schema) : Schema → Prop
  | self : OutsideAlternatives node node
  | part {s p : Schema} (hp : p ∈ s.commonParts) :
      OutsideAlternatives node p → OutsideAlternatives node s

/-- A schema is that of a property of some object in another one. -/
def IsPropertyIn (p s : Schema) : Prop :=
  ∃ owner o name, Inside owner s ∧ owner.asObject? = some o ∧ (name, p) ∈ o.properties

variable {s s' : Schema}

theorem commonParts_congr (h : s.contents = s'.contents) : s.commonParts = s'.commonParts := by
  have heq : ∀ s : Schema, s.commonParts = (ofShape s.contents).commonParts := by
    rintro ⟨shape, description, deprecated, access⟩
    cases shape <;> rfl
  rw [heq s, heq s', h]

/-- What stands in a schema outside its alternatives is the schema itself, or stands so in one with
the same contents. -/
theorem OutsideAlternatives.of_contents {node : Schema} (hw : OutsideAlternatives node s)
    (h : s.contents = s'.contents) : node = s ∨ OutsideAlternatives node s' := by
  cases hw with
  | self => exact Or.inl rfl
  | part hp hin => exact Or.inr (.part (commonParts_congr h ▸ hp) hin)

/-! ## References are stated once for each place -/

/-- The references of a schema are its own, those of its parts, and those of its discriminator. -/
theorem references_eq_parts (s : Schema) :
    s.references = s.target?.toList ++ s.parts.flatMap references ++
      mappedComponents s.discriminator? := by
  obtain ⟨shape, description, deprecated, access⟩ := s
  cases shape with
  | composed c =>
    obtain ⟨allOf, oneOf, discriminator, value⟩ := c
    rw [references, referencesOfAll_eq, referencesOfAll_eq]
    simp [target?, parts, discriminator?]
  | object o =>
    obtain ⟨properties, required, discriminator, additional⟩ := o
    rw [references, referencesOfProperties_eq]
    cases additional with
    | none => simp [target?, parts, discriminator?, referencesOfOption]
    | some v => simp [target?, parts, discriminator?, referencesOfOption]
  | _ => simp [references, target?, parts, discriminator?, mappedComponents]

/-- Without compositions and discriminators every reference is a schema of its own. -/
theorem mem_references_iff (h : s.Everywhere IsUndivided) {target : String} :
    target ∈ s.references ↔ ∃ node, Inside node s ∧ node.target? = some target := by
  have hstep : ∀ s : Schema, s.IsUndivided → (target ∈ s.references ↔
      s.target? = some target ∨ ∃ p ∈ s.parts, target ∈ p.references) := by
    intro s hs
    rw [references_eq_parts, hs.no_discriminator]
    simp [mappedComponents]
  constructor
  · induction s using parts_induction with
    | step s ih =>
      intro ht
      obtain ⟨hself, hparts⟩ := everywhere_iff.1 h
      rcases (hstep s hself).1 ht with ht | ⟨p, hp, ht⟩
      · exact ⟨s, .self, ht⟩
      · obtain ⟨node, hin, hnode⟩ := ih p hp (hparts p hp) ht
        exact ⟨node, .part hp hin, hnode⟩
  · rintro ⟨node, hin, ht⟩
    induction hin with
    | self => exact (hstep node h.of_self).2 (Or.inl ht)
    | part hp hin ih =>
      exact (hstep _ h.of_self).2 (Or.inr ⟨_, hp, ih ((everywhere_iff.1 h).2 _ hp)⟩)

end Schema

variable {config : Config} {hooks : Hooks} {graph : TypeGraph} {bases : PolymorphismMap}
  {scope : Scope} {style : ReferenceStyle} {d : Document}

/-! ## The two styles -/

theorem namedSchema_direct_eq (scope : Scope) (name : String) :
    namedSchema scope .direct name =
      namedSchema { scope with polymorphism := none } .polymorphic name := by
  have hcomponent : Scope.component? { scope with polymorphism := none } name =
      scope.component? name := rfl
  rw [namedSchema, namedSchema, hcomponent]
  cases scope.component? name with
  | none => rfl
  | some t => rfl

/-- A type is described directly as it is described in a scope without bases. -/
theorem schemaOf_direct_eq (scope : Scope) (t : TypeRef) :
    schemaOf scope .direct t = schemaOf { scope with polymorphism := none } .polymorphic t := by
  induction t with
  | named name => rw [schemaOf, schemaOf, namedSchema_direct_eq]
  | list element ih | array element ih => rw [schemaOf, schemaOf, ih]
  | map value ih => rw [schemaOf, schemaOf, ih]
  | envelope inner ih => rw [schemaOf, schemaOf, ih]
  | _ => rfl

/-! ## Operations -/

theorem isUndivided_schema?_direct {t : TypeRef} {s : Schema}
    (hs : schema? scope .direct t = some s) : s.Everywhere Schema.IsUndivided := by
  obtain ⟨leaf, hleaf, rfl⟩ := Option.map_eq_some_iff.1 hs
  rcases leafNode?_cases hleaf with ⟨hparts, -, hundivided⟩ | ⟨hstyle, -⟩
  · exact TypeRef.everywhere_wrap Schema.isUndivided_array Schema.isUndivided_tableOf t
      (Schema.everywhere_of_parts_eq_nil hundivided hparts)
  · cases hstyle

theorem isUndivided_form (name : String) :
    (Schema.object (ObjectShape.insertProperty {} name (.array .binary) false)).Everywhere
      Schema.IsUndivided := by
  have hfile : Schema.binary.Everywhere Schema.IsUndivided :=
    Schema.everywhere_of_parts_eq_nil ⟨rfl, rfl⟩ rfl
  refine Schema.everywhere_iff.2 ⟨⟨rfl, rfl⟩, fun p hp => ?_⟩
  obtain rfl := List.mem_singleton.1 hp
  exact hfile.array (Schema.isUndivided_array _)

/-- Payloads are undivided at every depth. -/
theorem Schema.IsPayload.isUndivided {types : List TypeRef} {s : Schema}
    (h : s.IsPayload scope types) : s.Everywhere Schema.IsUndivided := by
  have hcongr : ∀ plain : Schema, plain.Everywhere Schema.IsUndivided →
      s.contents = plain.contents → s.Everywhere Schema.IsUndivided :=
    fun plain hplain hc => hplain.congr hc (hplain.of_self.congr hc)
  cases h with
  | typed ht hn hs hc => exact hcongr _ (isUndivided_schema?_direct hs) hc
  | file hc | text hc => exact hcongr _ (everywhere_of_parts_eq_nil ⟨rfl, rfl⟩ rfl) hc
  | files name hc => exact hcongr _ (isUndivided_form name) hc

/-- Where a type leads to a base, its plain schema is a reference to the component of the base. -/
theorem schema?_direct_base (h : IsScopeOf config hooks graph bases scope) {name : String}
    {b : PolymorphicBase} (hb : bases.get? name = some b) {t : TypeRef}
    (ht : t.leaf = .named name) :
    schema? scope .direct t = some (t.wrap (.reference (simpleNameOf name))) := by
  obtain ⟨⟨u, hu, hname⟩, -⟩ := h.base_spec (Assoc.mem_of_get? hb)
  have hcomponent : scope.component? name = some u := h.component?_eq_some_iff.2 ⟨hu, hname⟩
  rw [schema?, ht, leafNode?, namedNode, hcomponent]
  subst hname
  rfl

/-! ## Properties -/

/-- The properties of an object, if the schema is one, are those of fields and texts. -/
def Schema.HoldsFields (scope : Scope) (s : Schema) : Prop :=
  ∀ o, s.asObject? = some o → ∀ p ∈ o.properties,
    (∃ f, p.2 = FieldDescriptor.schema scope f) ∨ p.2 = .text

/-- Objects that are no records have no properties. -/
theorem Schema.IsNoRecord.holdsFields {s : Schema} (h : s.IsNoRecord) : s.HoldsFields scope := by
  intro o ho p hp
  rw [(h o ho).1] at hp
  cases hp

theorem holdsFields_reference {target : String} :
    (Schema.reference target).Everywhere (Schema.HoldsFields scope) :=
  (Schema.everywhere_isNoRecord rfl rfl).mono fun _ => Schema.IsNoRecord.holdsFields

theorem holdsFields_objectOf (flattened : List TypeDescriptor) (t : TypeDescriptor) :
    (Schema.object (objectOf scope flattened t)).Everywhere (Schema.HoldsFields scope) := by
  refine Schema.everywhere_iff.2 ⟨fun o ho p hp => ?_, fun p hp => ?_⟩
  · obtain rfl := Option.some.inj ho
    exact mem_properties_objectOf hp
  · have hnone : p.Everywhere Schema.IsNoRecord := by
      simp only [Schema.parts, Schema.object, Schema.ofShape, additional_objectOf,
        Option.toList_none, List.append_nil] at hp
      obtain ⟨name, hp⟩ := Assoc.mem_values_iff.1 hp
      rcases mem_properties_objectOf hp with ⟨f, rfl⟩ | rfl
      · exact isNoRecord_field f
      · exact Schema.everywhere_isNoRecord rfl rfl
    exact hnone.mono fun _ => Schema.IsNoRecord.holdsFields

theorem holdsFields_classNode (t : TypeDescriptor) (ancestry : Ancestry) :
    (classNode scope t ancestry).Everywhere (Schema.HoldsFields scope) := by
  rw [classNode]
  cases ancestry.parent with
  | none => exact holdsFields_objectOf ancestry.flattened t
  | some parent =>
    refine Schema.everywhere_iff.2 ⟨fun o ho => ?_, fun p hp => ?_⟩
    · exact absurd ho (Option.some_ne_none o).symm
    · rcases List.mem_cons.1 hp with rfl | hp
      · exact holdsFields_reference
      · obtain rfl := List.mem_singleton.1 hp
        exact holdsFields_objectOf ancestry.flattened t

/-- The properties in a component are those of fields, and the discriminator property. -/
theorem isPropertyIn_componentOf (hz : hooks.interceptorCount = 0) {t : TypeDescriptor}
    {s p : Schema} (hs : (componentOf scope hooks t).result = .ok s) (hp : p.IsPropertyIn s) :
    (∃ f, p = FieldDescriptor.schema scope f) ∨ p = .text := by
  have hholds : s.Everywhere (Schema.HoldsFields scope) := by
    rcases (result_componentOf_eq_ok hz).1 hs with ⟨-, rfl⟩ | ⟨-, ancestry, -, -, rfl⟩
    · exact (Schema.everywhere_isNoRecord rfl rfl).mono fun _ => Schema.IsNoRecord.holdsFields
    · have hclass : (classNode scope t ancestry).Everywhere (Schema.HoldsFields scope) :=
        holdsFields_classNode t ancestry
      exact hclass.congr (Schema.contents_congr (Schema.shape_applyToType _ _)) hclass.of_self
  obtain ⟨owner, o, name, hin, ho, hp⟩ := hp
  exact hholds owner hin o ho (name, p) hp

theorem commonParts_of_leafNode? {t : TypeRef} {s : Schema} (h : leafNode? scope style t = some s) :
    s.commonParts = [] := by
  rcases leafNode?_cases h with ⟨hparts, -, hundivided⟩ | ⟨-, b, rfl⟩
  · obtain ⟨shape, description, deprecated, access⟩ := s
    cases shape with
    | composed c => cases hundivided.not_composed
    | _ => exact hparts
  · rfl

/-- Outside alternatives a schema is left through arrays and tables only, since a leaf has no other
parts. -/
theorem within_of_outsideAlternatives (t : TypeRef) {leaf node : Schema}
    (hleaf : leaf.commonParts = []) (h : Schema.OutsideAlternatives node (t.wrap leaf)) :
    Schema.Within node (t.wrap leaf) := by
  induction t with
  | list element ih | array element ih =>
    cases h with
    | self => exact .self
    | part hp hin =>
      obtain rfl := List.mem_singleton.1 hp
      exact .items rfl (ih hin)
  | map value ih =>
    cases h with
    | self => exact .self
    | part hp hin =>
      obtain rfl := List.mem_singleton.1 hp
      exact .values rfl (ih hin)
  | envelope inner ih => exact ih h
  | _ =>
    cases h with
    | self => exact .self
    | part hp hin => cases hleaf ▸ hp

/-- What a field refers to outside alternatives it refers to inside arrays and tables. -/
theorem exists_within_field {f : FieldDescriptor} {node : Schema}
    (h : Schema.OutsideAlternatives node (f.schema scope)) :
    ∃ node', Schema.Within node' (f.schema scope) ∧ node'.target? = node.target? := by
  have hkeep := Schema.contents_applyTo f.directives
    ((schema? scope .polymorphic f.type).getD .genericObject)
  rcases h.of_contents hkeep with rfl | hplain
  · exact ⟨_, .self, rfl⟩
  · have hwithin : Schema.Within node
        ((schema? scope .polymorphic f.type).getD .genericObject) := by
      cases hs : schema? scope .polymorphic f.type with
      | none =>
        rw [hs] at hplain
        exact within_of_outsideAlternatives .void rfl hplain
      | some s =>
        rw [hs] at hplain
        obtain ⟨leaf, hleaf, rfl⟩ := Option.map_eq_some_iff.1 hs
        exact within_of_outsideAlternatives f.type (commonParts_of_leafNode? hleaf) hplain
    rcases hwithin.of_contents hkeep.symm with rfl | hfield
    · exact ⟨_, .self, Schema.target?_congr hkeep⟩
    · exact ⟨node, hfield, rfl⟩

/-- No property refers to the component of a base, except among alternatives. -/
theorem target?_ne_of_isPropertyIn (hz : hooks.interceptorCount = 0)
    (h : IsScopeOf config hooks graph bases scope) {handlers : NamespaceMatcher}
    (hd : (generateIn config hooks graph scope handlers).result = .ok d) {name : String}
    {b : PolymorphicBase} (hb : bases.get? name = some b) {key : String} {s p node : Schema}
    (hs : (key, s) ∈ d.components) (hp : p.IsPropertyIn s)
    (hnode : Schema.OutsideAlternatives node p) :
    node.target? ≠ some (simpleNameOf name) := by
  have hadded := componentsAdded_of_generateIn hd
  obtain ⟨t, -, -, hcomponent⟩ := hadded.exists_type hs
  obtain ⟨⟨u, hu, rfl⟩, -⟩ := h.base_spec (Assoc.mem_of_get? hb)
  rcases isPropertyIn_componentOf hz hcomponent hp with ⟨f, rfl⟩ | rfl
  · obtain ⟨node', hwithin, htarget⟩ := exists_within_field hnode
    rw [← htarget]
    exact target?_ne_of_within_field h hadded.nodup_simpleNames hu hb hwithin
  · cases hnode with
    | self => exact nofun
    | part hp _ => cases hp

/-! ## Whole documents -/

/-- A field that leads to a base is a property of its class, and a choice between the subclasses at
the place of the base. -/
theorem isOffered_property (hz : hooks.interceptorCount = 0)
    (h : IsScopeOf config hooks graph bases scope) {handlers : NamespaceMatcher}
    (hd : (generateIn config hooks graph scope handlers).result = .ok d) {name : String}
    {b : PolymorphicBase} (hb : bases.get? name = some b) {u : TypeDescriptor}
    (hu : u ∈ candidateTypes config hooks graph) (henum : u.isEnum = false) :
    ∃ s o ancestry, d.components.get? u.simpleName = some s ∧ s.ownObject? = some o ∧
      (resolveAncestry scope u).result = .ok ancestry ∧
      ∀ property f, (property, f) ∈ fieldTable (declaredFields ancestry.flattened u) →
        f.type.leaf = .named name →
          ∃ p node, Assoc.get? o.properties property = some p ∧
            f.type.innermost? p = some node ∧ b.IsOffered node := by
  obtain ⟨s, ancestry, hget, ha, hown⟩ := exists_ownObject? hz hd hu henum
  refine ⟨s, _, ancestry, hget, hown, ha, fun property f hf hleaf => ?_⟩
  obtain ⟨node, hnode, hoffered⟩ := isOffered_field h hb hleaf
  exact ⟨_, node, get?_properties_objectOf hf, hnode, hoffered⟩

/-- Without interceptors the operations of a document contain no compositions, alternatives or
discriminators at any depth: they are made from declared types, what they refer to stands in them as
a plain reference, and a type that leads to a base becomes a reference to its component. In the
components no property refers to a base at any depth, except among alternatives: a field that leads
to a base is a choice between its subclasses. For every type, describing it directly is describing it
in a scope without bases. -/
theorem reference_styles_apart (config : Config) (hooks : Hooks) (graph : TypeGraph) :
    (∀ d, hooks.interceptorCount = 0 → (generate config hooks graph).result = .ok d →
      ∃ bases scope, (polymorphicBases config hooks graph).result = .ok bases ∧
        IsScopeOf config hooks graph bases scope ∧
        (∀ o ∈ d.operations, ∃ handler ∈ graph.types, ∃ m ∈ handler.methods, ∀ s ∈ o.schemas,
          s.IsPayload scope m.declaredTypes ∧ s.Everywhere Schema.IsUndivided ∧
          ∀ target, target ∈ s.references ↔
            ∃ node, Schema.Inside node s ∧ node.target? = some target) ∧
        ∀ name b, bases.get? name = some b →
          (∀ t : TypeRef, t.leaf = .named name →
            schema? scope .direct t = some (t.wrap (.reference (simpleNameOf name)))) ∧
          (∀ key s, (key, s) ∈ d.components → ∀ p : Schema, p.IsPropertyIn s →
            ∀ node, Schema.OutsideAlternatives node p →
              node.target? ≠ some (simpleNameOf name)) ∧
          ∀ u ∈ candidateTypes config hooks graph, u.isEnum = false →
            ∃ s o ancestry, d.components.get? u.simpleName = some s ∧ s.ownObject? = some o ∧
              (resolveAncestry scope u).result = .ok ancestry ∧
              ∀ property f, (property, f) ∈ fieldTable (declaredFields ancestry.flattened u) →
                f.type.leaf = .named name →
                  ∃ p node, Assoc.get? o.properties property = some p ∧
                    f.type.innermost? p = some node ∧ b.IsOffered node) ∧
    ∀ (scope : Scope) (t : TypeRef),
      schemaOf scope .direct t = schemaOf { scope with polymorphism := none } .polymorphic t := by
  refine ⟨fun d hz hg => ?_, schemaOf_direct_eq⟩
  obtain ⟨bases, scope, handlers, h, -, hd⟩ := result_generate_eq_ok.1 hg
  refine ⟨bases, scope, h.bases_eq, h, fun o ho => ?_, fun name b hb => ⟨?_, ?_, ?_⟩⟩
  · obtain ⟨handler, hhandler, m, hm, hpayload⟩ := isPayload_operation hz hd ho
    refine ⟨handler, hhandler, m, hm, fun s hs => ?_⟩
    have hundivided := (hpayload s hs).isUndivided
    exact ⟨hpayload s hs, hundivided, fun target => Schema.mem_references_iff hundivided⟩
  · exact fun t ht => schema?_direct_base h hb ht
  · exact fun key s hs p hp node hnode => target?_ne_of_isPropertyIn hz h hd hb hs hp hnode
  · exact fun u hu henum => isOffered_property hz h hd hb hu henum

/-- The configuration of a kennel. -/
def kennelConfig : Config :=
  { modelNamespaces := ["kennel"], handlerNamespaces := ["kennel.web"] }

/-- A base that a field and a handler reach through maps, lists and envelopes. -/
def kennelGraph : TypeGraph where
  types := [
    { name := "kennel.Animal"
      directives := [.polymorphic none [⟨"kennel.Dog", none⟩]] },
    { name := "kennel.Dog", superclass := some "kennel.Animal" },
    { name := "kennel.Owner"
      fields := [{ name := "pets", type := .map (.list (.named "kennel.Animal")) }] },
    { name := "kennel.web.Visits"
      directives := [.route (.base "/visits")]
      methods := [
        { name := "book"
          parameters := [.bound "guests" (.list (.named "kennel.Animal")) ⟨.body, none, none, none⟩]
          returns := .envelope (.map (.named "kennel.Animal"))
          directives := [.route { verbs := [.post] }] }] }]
  nodup_names := by decide +kernel

theorem reference_styles_apart_kennel :
    Hooks.none.interceptorCount = 0 ∧
      ∃ d, (generate kennelConfig Hooks.none kennelGraph).result = .ok d ∧
        d.operations.length = 1 ∧
        (∀ o ∈ d.operations, ∀ s ∈ o.schemas, s.Everywhere Schema.IsUndivided) ∧
        ∀ key s, (key, s) ∈ d.components → ∀ p : Schema, p.IsPropertyIn s →
          ∀ node, Schema.OutsideAlternatives node p → node.target? ≠ some "Animal" := by
  obtain ⟨d, hd⟩ := exists_eq_ok_of_toBool
    (show (generate kennelConfig Hooks.none kennelGraph).result.toBool = true by decide +kernel)
  have hcount : (generate kennelConfig Hooks.none kennelGraph).result.map
      (·.operations.length) = .ok 1 := by decide +kernel
  rw [hd] at hcount
  have hbases : (polymorphicBases kennelConfig Hooks.none kennelGraph).result =
      .ok [("kennel.Animal", ⟨"type", [("kennel.Dog", "Dog")]⟩)] := by decide +kernel
  obtain ⟨bases, scope, hb, -, hoperations, hcomponents⟩ :=
    (reference_styles_apart kennelConfig Hooks.none kennelGraph).1 d rfl hd
  obtain rfl := Except.ok.inj (hbases.symm.trans hb)
  refine ⟨rfl, d, hd, Except.ok.inj hcount, fun o ho s hs => ?_,
    (hcomponents "kennel.Animal" _ rfl).2.1⟩
  obtain ⟨handler, -, m, -, hm⟩ := hoperations o ho
  exact (hm s hs).2.1

end ApiContract
