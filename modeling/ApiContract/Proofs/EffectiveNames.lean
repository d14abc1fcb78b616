import ApiContract.Proofs.Compositions
import ApiContract.Proofs.Discriminators
/-!
# Inherited properties

The fields of a class end up in several places. Those of superclasses that are no components are
copied into the class, and those of the nearest component are reached through the composition with
it, which has copied and composed in its turn. Together nothing on the chain of superclasses is lost
and nothing is added.

* `Document.HasEffective` : a name is in the object of a component or of one it is composed with.
* `DeclaresName` : a type declares a name, by a field or as a polymorphic base.
* `exists_owner` : each type on the chain of a class is a class that is reached by compositions, or
  is copied into one.
* `effective_names` : the effective names of a component are those declared on its chain.
-/

namespace ApiContract

open Relation

/-- A name is among the names of the object of a component, or is effective in a component that it
is composed with. -/
inductive Document.HasEffective (d : Document) (names : ObjectShape Schema → List String)
    (name : String) : String → Prop
  | own {component : String} {s : Schema} {o : ObjectShape Schema}
      (hs : d.components.get? component = some s) (ho : s.ownObject? = some o)
      (hn : name ∈ names o) : HasEffective d names name component
  | inherited {a b : String} (hc : d.Composes a b) (hb : HasEffective d names name b) :
      HasEffective d names name a

/-- A type is the class `t` or lies on its chain of superclasses. -/
def IsOnChain (config : Config) (graph : TypeGraph) (t u : TypeDescriptor) : Prop :=
  u ∈ graph.types ∧ ReflTransGen (IsSuperclass config graph) t.name u.name

/-- A type declares a name: by a field that is not skipped, has a schema and satisfies `counts`, or
as the discriminator property of a polymorphic base. -/
def DeclaresName (scope : Scope) (counts : FieldDescriptor → Prop) (u : TypeDescriptor)
    (name : String) : Prop :=
  (∃ f ∈ u.fields, f.name = name ∧ f.isSkipped = false ∧ counts f ∧
    ∃ s, (schemaOf scope .polymorphic f.type).result = .ok (some s)) ∨
  ∃ b, scope.polymorphicBase? u.name = some b ∧ b.property = name

variable {config : Config} {hooks : Hooks} {graph : TypeGraph} {bases : PolymorphismMap}
  {scope : Scope} {d : Document}

/-! ## Names in the object of a class -/

theorem mem_keys_fieldTable {fields : List FieldDescriptor} {name : String} :
    name ∈ (fieldTable fields).keys ↔ ∃ f ∈ fields, f.isMapped = true ∧ f.name = name := by
  simp [fieldTable, Assoc.mem_keys_ofPairs, and_assoc]

theorem mem_required_insertFields {o : ObjectShape Schema} {fields : List FieldDescriptor}
    {name : String} :
    name ∈ (o.insertFields scope fields).required ↔
      name ∈ o.required ∨
        ∃ f ∈ fields, f.isMapped = true ∧ f.isRequired = true ∧ f.name = name := by
  rw [insertFields_eq_insertAll, ObjectShape.mem_required_insertAll]
  refine or_congr_right ⟨?_, ?_⟩
  · rintro ⟨p, hp, hname, hrequired⟩
    obtain ⟨f, hf, rfl⟩ := List.mem_map.1 hp
    obtain ⟨hf, hm⟩ := List.mem_filter.1 hf
    exact ⟨f, hf, hm, hrequired, hname⟩
  · rintro ⟨f, hf, hm, hrequired, rfl⟩
    exact ⟨_, List.mem_map_of_mem (List.mem_filter.2 ⟨hf, hm⟩), rfl, hrequired⟩

/-- The names that are read off an object, as those of the fields that satisfy `counts`. -/
def AreNamesOf (names : ObjectShape Schema → List String) (counts : FieldDescriptor → Prop) :
    Prop :=
  ∀ (scope : Scope) (flattened : List TypeDescriptor) (t : TypeDescriptor) (name : String),
    name ∈ names (objectOf scope flattened t) ↔
      (∃ f ∈ declaredFields flattened t, f.isMapped = true ∧ counts f ∧ f.name = name) ∨
      ∃ b, scope.polymorphicBase? t.name = some b ∧ b.property = name

theorem areNamesOf_properties :
    AreNamesOf (fun o => Assoc.keys o.properties) (fun _ => True) := by
  intro scope flattened t name
  simp only [true_and, ← mem_keys_fieldTable]
  rw [properties_objectOf, Assoc.keys_append, List.mem_append, Assoc.keys_mapValues]
  cases scope.polymorphicBase? t.name with
  | none => simp
  | some b =>
    simp only [Option.some.injEq, exists_eq_left']
    by_cases hfield : b.property ∈ (fieldTable (declaredFields flattened t)).keys
    · rw [if_pos (Assoc.contains_iff.2 hfield)]
      constructor
      · rintro (h | h)
        · exact Or.inl h
        · cases h
      · rintro (h | rfl)
        · exact Or.inl h
        · exact Or.inl hfield
    · rw [if_neg (fun h => hfield (Assoc.contains_iff.1 h))]
      simp [eq_comm]

theorem areNamesOf_required : AreNamesOf (·.required) (fun f => f.isRequired = true) := by
  intro scope flattened t name
  rw [objectOf]
  cases hb : scope.polymorphicBase? t.name with
  | none => simp [mem_required_insertFields]
  | some b => simp [PolymorphicBase.addTo, mem_addName, mem_required_insertFields]

/-! ## Classes and what is copied into them -/

theorem isMapped_iff {f : FieldDescriptor} (hp : f.IsPlain) :
    f.isMapped = true ↔ f.isSkipped = false ∧
      ∃ s, (schemaOf scope .polymorphic f.type).result = .ok (some s) := by
  rw [FieldDescriptor.isMapped, Bool.and_eq_true, Bool.not_eq_true',
    ← schema?_isSome scope .polymorphic, Option.isSome_iff_exists]
  refine and_congr_right fun hs => exists_congr fun s => ?_
  rw [result_schemaOf_eq_ok, and_iff_right (hp hs), eq_comm]

theorem mem_declaredFields {flattened : List TypeDescriptor} {t : TypeDescriptor}
    {f : FieldDescriptor} :
    f ∈ declaredFields flattened t ↔ ∃ u, (u = t ∨ u ∈ flattened) ∧ f ∈ u.fields := by
  simp [declaredFields, or_and_right, exists_or, or_comm]

/-- A class and the types that are copied into it are those that copied links lead to. -/
theorem eq_or_mem_flattened_iff (h : IsScopeOf config hooks graph bases scope)
    {t : TypeDescriptor} (ht : t ∈ graph.types) {ancestry : Ancestry}
    (ha : (resolveAncestry scope t).result = .ok ancestry) {u : TypeDescriptor} :
    u = t ∨ u ∈ ancestry.flattened ↔
      u ∈ graph.types ∧ ReflTransGen (IsCopiedLink config hooks graph) t.name u.name := by
  rw [mem_flattened_resolveAncestry_iff h ht ha, reflTransGen_iff_eq_or_transGen, and_or_left]
  refine or_congr_left ⟨?_, fun ⟨hu, hname⟩ => TypeGraph.eq_of_name_eq hu ht hname⟩
  rintro rfl
  exact ⟨ht, rfl⟩

/-- The names of the object of a class are those that it or a type copied into it declares. -/
theorem mem_names_objectOf_iff (h : IsScopeOf config hooks graph bases scope)
    {names : ObjectShape Schema → List String} {counts : FieldDescriptor → Prop}
    (hnames : AreNamesOf names counts) {t : TypeDescriptor} (ht : t ∈ graph.types)
    {ancestry : Ancestry} (ha : (resolveAncestry scope t).result = .ok ancestry)
    (hplain : ∀ f ∈ declaredFields ancestry.flattened t, f.IsPlain) {name : String} :
    name ∈ names (objectOf scope ancestry.flattened t) ↔
      ∃ u ∈ graph.types, ReflTransGen (IsCopiedLink config hooks graph) t.name u.name ∧
        DeclaresName scope counts u name := by
  rw [hnames]
  constructor
  · rintro (⟨f, hf, hm, hc, rfl⟩ | ⟨b, hb, rfl⟩)
    · obtain ⟨u, hu, hfu⟩ := mem_declaredFields.1 hf
      obtain ⟨hmem, hlinks⟩ := (eq_or_mem_flattened_iff h ht ha).1 hu
      obtain ⟨hs, hschema⟩ := (isMapped_iff (hplain f hf)).1 hm
      exact ⟨u, hmem, hlinks, Or.inl ⟨f, hfu, rfl, hs, hc, hschema⟩⟩
    · exact ⟨t, ht, .refl, Or.inr ⟨b, hb, rfl⟩⟩
  · rintro ⟨u, hmem, hlinks, ⟨f, hfu, rfl, hs, hc, hschema⟩ | ⟨b, hb, rfl⟩⟩
    · have hf : f ∈ declaredFields ancestry.flattened t :=
        mem_declaredFields.2 ⟨u, (eq_or_mem_flattened_iff h ht ha).2 ⟨hmem, hlinks⟩, hfu⟩
      exact Or.inl ⟨f, hf, (isMapped_iff (hplain f hf)).2 ⟨hs, hschema⟩, hc, rfl⟩
    · -- a base is a candidate, and no candidate is copied
      rcases hlinks.cases_tail with heq | ⟨v, -, hcopied⟩
      · rw [← TypeGraph.eq_of_name_eq hmem ht heq]
        exact Or.inr ⟨b, hb, rfl⟩
      · exact absurd (h.polymorphicBase?_spec hb).1 hcopied.2

theorem isPlain_of_generateIn (hz : hooks.interceptorCount = 0) {handlers : NamespaceMatcher}
    (hd : (generateIn config hooks graph scope handlers).result = .ok d) {t : TypeDescriptor}
    (ht : t ∈ candidateTypes config hooks graph) (henum : t.isEnum = false) {ancestry : Ancestry}
    (ha : (resolveAncestry scope t).result = .ok ancestry) :
    ∀ f ∈ declaredFields ancestry.flattened t, f.IsPlain := by
  obtain ⟨s, hs, -⟩ := (componentsAdded_of_generateIn hd).component t ht
  rcases (result_componentOf_eq_ok hz).1 hs with ⟨hc, -⟩ | ⟨-, ancestry', ha', hplain, -⟩
  · rw [henum] at hc
    cases hc
  · obtain rfl := Except.ok.inj (ha.symm.trans ha')
    exact hplain

/-! ## Chains and compositions -/

theorem NearestCandidate.reflTransGen {a b : String} (h : NearestCandidate config hooks graph a b) :
    ReflTransGen (IsSuperclass config graph) a b := by
  induction h with
  | here hb _ => exact .single hb
  | further hb _ _ ih => exact .head hb ih

theorem reflTransGen_of_copied {a b : String}
    (h : ReflTransGen (IsCopiedLink config hooks graph) a b) :
    ReflTransGen (IsSuperclass config graph) a b := by
  induction h with
  | refl => exact .refl
  | tail _ hlink ih => exact ih.tail hlink.1

/-- The candidate behind links to types that are copied is the nearest one. -/
theorem nearestCandidate_of_copied {a m b : String}
    (h : ReflTransGen (IsCopiedLink config hooks graph) a m) (hb : IsSuperclass config graph m b)
    (hc : IsCandidateName config hooks graph b) : NearestCandidate config hooks graph a b := by
  induction h using ReflTransGen.head_induction_on with
  | refl => exact .here hb hc
  | head hlink _ ih => exact .further hlink.1 hlink.2 ih

/-- Compositions lead from a class to the class that a type on its chain is, or is copied into. -/
theorem exists_owner (hz : hooks.interceptorCount = 0)
    (h : IsScopeOf config hooks graph bases scope) {handlers : NamespaceMatcher}
    (hd : (generateIn config hooks graph scope handlers).result = .ok d) {t : TypeDescriptor}
    (ht : t ∈ candidateTypes config hooks graph)
    (henum : ∀ c ∈ candidateTypes config hooks graph, IsOnChain config graph t c →
      c.isEnum = false) {b : String}
    (hb : ReflTransGen (IsSuperclass config graph) t.name b) :
    ∃ c ∈ candidateTypes config hooks graph, IsOnChain config graph t c ∧
      ReflTransGen d.Composes t.simpleName c.simpleName ∧
      ReflTransGen (IsCopiedLink config hooks graph) c.name b := by
  induction hb with
  | refl => exact ⟨t, ht, ⟨mem_types_of_mem_candidateTypes ht, .refl⟩, .refl, .refl⟩
  | @tail m b hm hlink ih =>
    obtain ⟨c, hc, hchain, hcomposes, hcopied⟩ := ih
    by_cases hcandidate : IsCandidateName config hooks graph b
    · obtain ⟨p, hp, rfl⟩ := hcandidate
      have hnear := nearestCandidate_of_copied hcopied hlink (isCandidateName_of_mem hp)
      have hstep : d.Composes c.simpleName p.simpleName :=
        (composes_iff hz h hd hc).2 ⟨henum c hc hchain, p, hp, rfl, hnear⟩
      exact ⟨p, hp, ⟨mem_types_of_mem_candidateTypes hp, hm.tail hlink⟩, hcomposes.tail hstep,
        .refl⟩
    · exact ⟨c, hc, hchain, hcomposes, hcopied.tail ⟨hlink, hcandidate⟩⟩

theorem Document.HasEffective.of_composes {names : ObjectShape Schema → List String}
    {name a b : String} (hab : ReflTransGen d.Composes a b) (h : d.HasEffective names name b) :
    d.HasEffective names name a := by
  induction hab using ReflTransGen.head_induction_on with
  | refl => exact h
  | head hstep _ ih => exact .inherited hstep ih

/-! ## Effective names -/

/-- Effective names are declared on the chain. -/
theorem exists_declares_of_hasEffective (hz : hooks.interceptorCount = 0)
    (h : IsScopeOf config hooks graph bases scope) {handlers : NamespaceMatcher}
    (hd : (generateIn config hooks graph scope handlers).result = .ok d)
    {names : ObjectShape Schema → List String} {counts : FieldDescriptor → Prop}
    (hnames : AreNamesOf names counts) {component name : String}
    (he : d.HasEffective names name component) {t : TypeDescriptor}
    (ht : t ∈ candidateTypes config hooks graph) (hcomponent : t.simpleName = component)
    (henum : ∀ c ∈ candidateTypes config hooks graph, IsOnChain config graph t c →
      c.isEnum = false) :
    ∃ u, IsOnChain config graph t u ∧ DeclaresName scope counts u name := by
  have hself : IsOnChain config graph t t := ⟨mem_types_of_mem_candidateTypes ht, .refl⟩
  induction he generalizing t with
  | own hs ho hn =>
    subst hcomponent
    obtain ⟨s, ancestry, hget, ha, hown⟩ := exists_ownObject? hz hd ht (henum t ht hself)
    obtain rfl := Option.some.inj (hs.symm.trans hget)
    obtain rfl := Option.some.inj (ho.symm.trans hown)
    obtain ⟨u, hmem, hcopied, hdeclares⟩ := (mem_names_objectOf_iff h hnames hself.1 ha
      (isPlain_of_generateIn hz hd ht (henum t ht hself) ha)).1 hn
    exact ⟨u, ⟨hmem, reflTransGen_of_copied hcopied⟩, hdeclares⟩
  | inherited hc _ ih =>
    subst hcomponent
    obtain ⟨-, p, hp, hname, hnear⟩ := (composes_iff hz h hd ht).1 hc
    have hup : ∀ {u}, IsOnChain config graph p u → IsOnChain config graph t u :=
      fun hu => ⟨hu.1, hnear.reflTransGen.trans hu.2⟩
    obtain ⟨u, hu, hdeclares⟩ := ih hp hname (fun c hcand hchain => henum c hcand (hup hchain))
      ⟨mem_types_of_mem_candidateTypes hp, .refl⟩
    exact ⟨u, hup hu, hdeclares⟩

/-- What is declared on the chain is effective. -/
theorem hasEffective_of_declares (hz : hooks.interceptorCount = 0)
    (h : IsScopeOf config hooks graph bases scope) {handlers : NamespaceMatcher}
    (hd : (generateIn config hooks graph scope handlers).result = .ok d)
    {names : ObjectShape Schema → List String} {counts : FieldDescriptor → Prop}
    (hnames : AreNamesOf names counts) {t : TypeDescriptor}
    (ht : t ∈ candidateTypes config hooks graph)
    (henum : ∀ c ∈ candidateTypes config hooks graph, IsOnChain config graph t c →
      c.isEnum = false)
    {u : TypeDescriptor} (hu : IsOnChain config graph t u) {name : String}
    (hdeclares : DeclaresName scope counts u name) :
    d.HasEffective names name t.simpleName := by
  obtain ⟨c, hc, hchain, hcomposes, hcopied⟩ := exists_owner hz h hd ht henum hu.2
  have hclass := henum c hc hchain
  obtain ⟨s, ancestry, hget, ha, hown⟩ := exists_ownObject? hz hd hc hclass
  refine Document.HasEffective.of_composes hcomposes (.own hget hown ?_)
  exact (mem_names_objectOf_iff h hnames (mem_types_of_mem_candidateTypes hc) ha
    (isPlain_of_generateIn hz hd hc hclass ha)).2 ⟨u, hu.1, hcopied, hdeclares⟩

/-- Nothing on the chain of superclasses is lost. Take a candidate whose chain has no candidate
enumeration. The effective properties of its component are the names of all fields on the chain that
are not skipped and have a schema, and the discriminator properties of the polymorphic bases on the
chain. The effective required names are those of the fields that are required, and the same
discriminator properties. -/
theorem effective_names (hz : hooks.interceptorCount = 0)
    (hg : (generate config hooks graph).result = .ok d) :
    ∃ bases scope, (polymorphicBases config hooks graph).result = .ok bases ∧
      IsScopeOf config hooks graph bases scope ∧
      ∀ t ∈ candidateTypes config hooks graph,
        (∀ c ∈ candidateTypes config hooks graph, IsOnChain config graph t c →
          c.isEnum = false) →
        ∀ name,
          (d.HasEffective (fun o => Assoc.keys o.properties) name t.simpleName ↔
            ∃ u, IsOnChain config graph t u ∧ DeclaresName scope (fun _ => True) u name) ∧
          (d.HasEffective (·.required) name t.simpleName ↔
            ∃ u, IsOnChain config graph t u ∧
              DeclaresName scope (fun f => f.isRequired = true) u name) := by
  obtain ⟨bases, scope, handlers, h, -, hd⟩ := result_generate_eq_ok.1 hg
  refine ⟨bases, scope, h.bases_eq, h, fun t ht henum name => ?_⟩
  have hiff : ∀ {names : ObjectShape Schema → List String} {counts : FieldDescriptor → Prop},
      AreNamesOf names counts → (d.HasEffective names name t.simpleName ↔
        ∃ u, IsOnChain config graph t u ∧ DeclaresName scope counts u name) := fun hnames =>
    ⟨fun he => exists_declares_of_hasEffective hz h hd hnames he ht rfl henum,
      fun ⟨_, hu, hdeclares⟩ => hasEffective_of_declares hz h hd hnames ht henum hu hdeclares⟩
  exact ⟨hiff areNamesOf_properties, hiff areNamesOf_required⟩

/-- The configuration of a garage. -/
def garageConfig : Config := { modelNamespaces := ["garage"] }

/-- A vehicle. -/
def vehicleClass : TypeDescriptor :=
  { name := "garage.Vehicle", fields := [{ name := "wheels", type := .boxed .int32 }] }

/-- A class of a library between vehicles and cars. -/
def motorClass : TypeDescriptor :=
  { name := "lib.Motor", superclass := some "garage.Vehicle"
    fields := [{ name := "power", type := .unboxed .int64 }] }

/-- A car, which copies the fields of the class between. -/
def carClass : TypeDescriptor := { name := "garage.Car", superclass := some "lib.Motor" }

/-- A chain of two components and a class between them that is none. -/
def garageGraph : TypeGraph where
  types := [vehicleClass, motorClass, carClass]
  nodup_names := by decide +kernel

theorem effective_names_car :
    Hooks.none.interceptorCount = 0 ∧
      ∃ d, (generate garageConfig Hooks.none garageGraph).result = .ok d ∧
        carClass ∈ candidateTypes garageConfig Hooks.none garageGraph ∧
        d.HasEffective (fun o => Assoc.keys o.properties) "wheels" "Car" ∧
        d.HasEffective (·.required) "power" "Car" := by
  obtain ⟨d, hd⟩ := exists_eq_ok_of_toBool
    (show (generate garageConfig Hooks.none garageGraph).result.toBool = true by decide +kernel)
  have hcar : carClass ∈ candidateTypes garageConfig Hooks.none garageGraph := by decide +kernel
  have hclasses : ∀ c ∈ candidateTypes garageConfig Hooks.none garageGraph,
      c.isEnum = false := by decide +kernel
  have hmotor : IsSuperclass garageConfig garageGraph "garage.Car" "lib.Motor" :=
    ⟨carClass, by decide +kernel, rfl, rfl, by decide +kernel⟩
  have hvehicle : IsSuperclass garageConfig garageGraph "lib.Motor" "garage.Vehicle" :=
    ⟨motorClass, by decide +kernel, rfl, rfl, by decide +kernel⟩
  obtain ⟨bases, scope, -, -, hall⟩ := effective_names rfl hd
  have hnames := hall carClass hcar fun c hc _ => hclasses c hc
  refine ⟨rfl, d, hd, hcar, (hnames "wheels").1.2 ?_, (hnames "power").2.2 ?_⟩
  · exact ⟨vehicleClass, ⟨by decide +kernel, .head hmotor (.single hvehicle)⟩,
      Or.inl ⟨_, List.mem_singleton.2 rfl, rfl, rfl, trivial, _, rfl⟩⟩
  · exact ⟨motorClass, ⟨by decide +kernel, .single hmotor⟩,
      Or.inl ⟨_, List.mem_singleton.2 rfl, rfl, rfl, rfl, _, rfl⟩⟩

end ApiContract
