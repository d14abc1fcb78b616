import ApiContract.Proofs.AgreeingScopes
import ApiContract.Proofs.FaultyDeclarations
import ApiContract.Proofs.SubclassTags
/-!
# The order of declarations

Types are scanned in the order of their declaration, but a document hardly depends on it. The same
types in another order are accepted as well, and become the same components and the same operations
under the same identifiers. Two things can change: which operation of a repeated identifier keeps
it, and the discriminator value of a class that several bases list, since the first of them gives it.

* `subclassTag?_of_perm` : a class that one base lists keeps its discriminator value.
* `isAccepted_of_perm` : what is accepted in one order is accepted in any.
* `components_of_perm`, `operation?_of_perm`, `ids_perm` : what the documents share.
* `declaration_order_irrelevant` : all of it.
-/

namespace ApiContract

/-! ## Classes in several bases -/

/-- Two bases list a class. -/
def IsListedTwice (config : Config) (hooks : Hooks) (graph : TypeGraph) (name : String) : Prop :=
  ∃ t ∈ candidateTypes config hooks graph, ∃ u ∈ candidateTypes config hooks graph,
    t ≠ u ∧ name ∈ t.subclassNames ∧ name ∈ u.subclassNames

/-- An operation but for its identifier. -/
def Operation.withoutId (o : Operation) : Operation := { o with id := "" }

variable {config : Config} {hooks : Hooks} {g g' : TypeGraph} {bases bases' : PolymorphismMap}
  {s s' : Scope} {handlers : NamespaceMatcher} {d d' : Document}

theorem mem_subclassNames_of_tagOf? {names : List String} {t : TypeDescriptor} {b : PolymorphicBase}
    (hb : declaredBase? names t = some b) {name tag : String} (htag : b.tagOf? name = some tag) :
    name ∈ t.subclassNames := by
  unfold declaredBase? at hb
  obtain ⟨⟨property, subtypes⟩, hp, rfl⟩ := Option.map_eq_some_iff.1 hb
  have hmem : (name, tag) ∈ keptSubtypes names subtypes := Assoc.mem_of_get? htag
  obtain ⟨d, hd, -, heq⟩ := mem_keptSubtypes.1 hmem
  rw [(Prod.mk.inj heq).1]
  exact TypeDescriptor.mem_subclassNames hp hd

/-- The discriminator value of a class is given by a base that a candidate declares. -/
theorem exists_base_of_subclassTag? (h : IsScopeOf config hooks g bases s) {name tag : String}
    (htag : subclassTag? s name = some tag) :
    ∃ t ∈ candidateTypes config hooks g, ∃ b,
      declaredBase? ((candidateTypes config hooks g).map (·.name)) t = some b ∧
        b.tagOf? name = some tag := by
  obtain ⟨before, ⟨base, b⟩, after, hbases, hb, -⟩ := (subclassTag?_eq_some_iff h).1 htag
  have hmem : (base, b) ∈ bases := by simp [hbases]
  rw [h.bases_eq_declared.2] at hmem
  obtain ⟨t, ht, -, hdeclared⟩ := mem_declaredBases.1 hmem
  exact ⟨t, ht, b, hdeclared, hb⟩

/-- A class that some base lists has a discriminator value. -/
theorem exists_subclassTag?_of_declared (h : IsScopeOf config hooks g bases s) {t : TypeDescriptor}
    (ht : t ∈ candidateTypes config hooks g) {b : PolymorphicBase}
    (hb : declaredBase? ((candidateTypes config hooks g).map (·.name)) t = some b)
    {name tag : String} (htag : b.tagOf? name = some tag) :
    ∃ value, subclassTag? s name = some value := by
  have hbase : s.polymorphicBase? t.name = some b :=
    h.polymorphicBase?_eq_some_iff.2 ⟨t, ht, rfl, hb⟩
  rw [h.polymorphicBase?_eq] at hbase
  exact exists_subclassTag? h hbase htag

/-! ## The same types in another order -/

theorem TypeGraph.agreeOn_of_perm (h : g.types.Perm g'.types) : g.AgreeOn (fun _ => True) g' where
  get?_eq := by
    intro name _
    apply Option.ext
    intro t
    rw [get?_eq_some_iff, get?_eq_some_iff, h.mem_iff]
  own := fun _ _ => trivial
  mentioned := fun _ _ _ _ => trivial

theorem candidateTypes_perm (config : Config) (hooks : Hooks) (h : g.types.Perm g'.types) :
    (candidateTypes config hooks g).Perm (candidateTypes config hooks g') := h.filter _

theorem handlersOf_perm (h : g.types.Perm g'.types) (handlers : NamespaceMatcher) :
    (handlersOf g handlers).Perm (handlersOf g' handlers) := h.filter _

theorem isListedTwice_of_perm (h : g.types.Perm g'.types) {name : String}
    (htwice : IsListedTwice config hooks g name) : IsListedTwice config hooks g' name := by
  obtain ⟨t, ht, u, hu, hlists⟩ := htwice
  have hperm := candidateTypes_perm config hooks h
  exact ⟨t, hperm.mem_iff.1 ht, u, hperm.mem_iff.1 hu, hlists⟩

/-- A class that one base lists keeps its discriminator value. -/
theorem subclassTag?_eq_some_of_perm (h : g.types.Perm g'.types)
    (hs : IsScopeOf config hooks g bases s) (hs' : IsScopeOf config hooks g' bases' s')
    {name tag : String} (honce : ¬ IsListedTwice config hooks g' name)
    (htag : subclassTag? s name = some tag) : subclassTag? s' name = some tag := by
  have hagree := TypeGraph.agreeOn_of_perm h
  obtain ⟨t, ht, b, hb, hvalue⟩ := exists_base_of_subclassTag? hs htag
  have ht' := hagree.mem_candidateTypes ht
  rw [hagree.declaredBase?_eq (mem_types_of_mem_candidateTypes ht)] at hb
  obtain ⟨tag', htag'⟩ := exists_subclassTag?_of_declared hs' ht' hb hvalue
  obtain ⟨u, hu, c, hc, hvalue'⟩ := exists_base_of_subclassTag? hs' htag'
  -- both values come from the only base that lists the class
  have heq : t = u := by
    by_contra hne
    exact honce ⟨t, ht', u, hu, hne, mem_subclassNames_of_tagOf? hb hvalue,
      mem_subclassNames_of_tagOf? hc hvalue'⟩
  subst heq
  obtain rfl : b = c := Option.some.inj (hb.symm.trans hc)
  rw [htag', ← hvalue', hvalue]

theorem subclassTag?_of_perm (h : g.types.Perm g'.types) (hs : IsScopeOf config hooks g bases s)
    (hs' : IsScopeOf config hooks g' bases' s') {name : String}
    (honce : ¬ IsListedTwice config hooks g name) : subclassTag? s name = subclassTag? s' name := by
  have honce' : ¬ IsListedTwice config hooks g' name := fun htwice =>
    honce (isListedTwice_of_perm h.symm htwice)
  apply Option.ext
  intro tag
  constructor
  · exact subclassTag?_eq_some_of_perm h hs hs' honce'
  · exact subclassTag?_eq_some_of_perm h.symm hs' hs honce

/-! ## Operations -/

theorem map_withoutId_withIds {operations : List Operation} {ids : List String}
    (h : ids.length = operations.length) :
    (withIds operations ids).map Operation.withoutId = operations.map Operation.withoutId := by
  induction operations generalizing ids with
  | nil => rfl
  | cons o rest ih =>
    cases ids with
    | nil => cases h
    | cons id ids => exact congrArg (o.withoutId :: ·) (ih (Nat.succ.inj h))

/-- The handlers give the same operations, in their order. -/
theorem extracted_perm (h : g.types.Perm g'.types) (hagree : s.AgreeOn (fun _ => True) s')
    (hs : s.graph = g) :
    ((handlersOf g handlers).flatMap (handlerOperations s hooks)).Perm
      ((handlersOf g' handlers).flatMap (handlerOperations s' hooks)) := by
  have hsame : (handlersOf g handlers).flatMap (handlerOperations s hooks) =
      (handlersOf g handlers).flatMap (handlerOperations s' hooks) := by
    refine List.flatMap_congr ?_
    intro t ht
    apply hagree.handlerOperations_eq
    rw [hs]
    exact (List.mem_filter.1 ht).1
  rw [hsame]
  exact (handlersOf_perm h handlers).flatMap_right _

/-- What a document holds at a place, but for the identifier. -/
theorem Document.IsFiled.withoutId_operation?_eq_some_iff (h : d.IsFiled) {path : String}
    {verb : Verb} {o : Operation} :
    (d.operation? path verb).map Operation.withoutId = some o ↔
      o ∈ d.operations.map Operation.withoutId ∧ o.key = (path, verb) := by
  rw [Option.map_eq_some_iff, List.mem_map]
  constructor
  · rintro ⟨o', ho', rfl⟩
    obtain ⟨hmem, hkey⟩ := h.operation?_eq_some_iff.1 ho'
    exact ⟨⟨o', hmem, rfl⟩, hkey⟩
  · rintro ⟨⟨o', hmem, rfl⟩, hkey⟩
    exact ⟨o', h.operation?_eq_some_iff.2 ⟨hmem, hkey⟩, rfl⟩

/-- The operations of the documents are the same but for their identifiers, and the identifiers are
the same. -/
theorem operations_of_perm (h : g.types.Perm g'.types) (hagree : s.AgreeOn (fun _ => True) s')
    (hs : s.graph = g) (hd : (generateIn config hooks g s handlers).result = .ok d)
    (hd' : (generateIn config hooks g' s' handlers).result = .ok d') :
    (∀ path verb, (d.operation? path verb).map Operation.withoutId =
      (d'.operation? path verb).map Operation.withoutId) ∧
    (d.operations.map (·.id)).Perm (d'.operations.map (·.id)) := by
  obtain ⟨extracted, ho, hfiled, hperm⟩ := operations_perm_of_generateIn hd
  obtain ⟨extracted', ho', hfiled', hperm'⟩ := operations_perm_of_generateIn hd'
  obtain ⟨-, rfl⟩ := (result_allOperations_eq_ok _).1 ho
  obtain ⟨-, rfl⟩ := (result_allOperations_eq_ok _).1 ho'
  have hextracted : ((handlersOf g handlers).flatMap (handlerOperations s hooks)).Perm
      ((handlersOf g' handlers).flatMap (handlerOperations s' hooks)) :=
    extracted_perm h hagree hs
  constructor
  · have hsame : (d.operations.map Operation.withoutId).Perm
        (d'.operations.map Operation.withoutId) := by
      have hleft := hperm.map Operation.withoutId
      have hright := hperm'.map Operation.withoutId
      rw [map_withoutId_withIds (length_uniqueIds_ids _)] at hleft hright
      exact hleft.trans ((hextracted.map _).trans hright.symm)
    intro path verb
    apply Option.ext
    intro o
    rw [hfiled.withoutId_operation?_eq_some_iff, hfiled'.withoutId_operation?_eq_some_iff,
      hsame.mem_iff]
  · have hleft := hperm.map (·.id)
    have hright := hperm'.map (·.id)
    rw [map_id_withIds (length_uniqueIds_ids _)] at hleft hright
    exact hleft.trans ((uniqueIds_perm (hextracted.map _)).trans hright.symm)

/-! ## Components -/

/-- The documents have the same components under the same names, but for the discriminator value of
classes that two bases list. -/
theorem components_of_perm (hz : hooks.interceptorCount = 0) (h : g.types.Perm g'.types)
    (hs : IsScopeOf config hooks g bases s) (hs' : IsScopeOf config hooks g' bases' s')
    (hd : (generateIn config hooks g s handlers).result = .ok d)
    (hd' : (generateIn config hooks g' s' handlers).result = .ok d') :
    d.components.keys = d'.components.keys ∧
    ∀ name schema schema', d.components.get? name = some schema →
      d'.components.get? name = some schema' → schema.unstamped = schema'.unstamped ∧
        (schema = schema' ∨ ∃ t ∈ candidateTypes config hooks g, t.simpleName = name ∧
          IsListedTwice config hooks g t.name) := by
  have hadded := componentsAdded_of_generateIn hd
  have hadded' := componentsAdded_of_generateIn hd'
  have hcandidates := candidateTypes_perm config hooks h
  have hagree := (TypeGraph.agreeOn_of_perm h).scope hs hs'
  constructor
  · exact keys_components_eq hd hd' hcandidates
  · intro name schema schema' hget hget'
    obtain ⟨t, ht, rfl, hschema⟩ := hadded.exists_type (Assoc.mem_of_get? hget)
    have hmem : t ∈ s.graph.types := by
      rw [hs.graph_eq]
      exact mem_types_of_mem_candidateTypes ht
    obtain ⟨other, hother, hunstamped, hequal⟩ := hagree.componentOf_eq_ok hz hmem hschema
    obtain ⟨other', hother', hcomponent⟩ := hadded'.component t (hcandidates.mem_iff.1 ht)
    obtain rfl : other = other' := Except.ok.inj (hother.symm.trans hother')
    obtain rfl : schema' = other := Option.some.inj (hget'.symm.trans hcomponent)
    refine ⟨hunstamped, ?_⟩
    by_cases htwice : IsListedTwice config hooks g t.name
    · exact Or.inr ⟨t, ht, rfl, htwice⟩
    · exact Or.inl (hequal (subclassTag?_of_perm h hs hs' htwice))

/-! ## Generations -/

/-- What is accepted in one order is accepted in any. -/
theorem isAccepted_of_perm (hz : hooks.interceptorCount = 0) (h : g.types.Perm g'.types)
    (hagree : s.AgreeOn (fun _ => True) s') (hs : s.graph = g)
    (ha : IsAccepted config hooks g s handlers) : IsAccepted config hooks g' s' handlers := by
  have hcandidates := candidateTypes_perm config hooks h
  refine ⟨?_, ?_, ?_, ?_⟩
  · intro t ht
    have hmem : t ∈ candidateTypes config hooks g := hcandidates.mem_iff.2 ht
    obtain ⟨schema, hschema⟩ := ha.components t hmem
    have htypes : t ∈ s.graph.types := by
      rw [hs]
      exact mem_types_of_mem_candidateTypes hmem
    obtain ⟨schema', hschema', -⟩ := hagree.componentOf_eq_ok hz htypes hschema
    exact ⟨schema', hschema'⟩
  · exact (hcandidates.map _).nodup_iff.1 ha.simpleNames
  · intro t ht hx
    exact ha.handlers t ((handlersOf_perm h handlers).mem_iff.2 ht) hx
  · exact ((extracted_perm h hagree hs).map _).nodup_iff.1 ha.places

theorem exists_generate_of_perm (hz : hooks.interceptorCount = 0) (h : g.types.Perm g'.types)
    (hg : (generate config hooks g).result = .ok d) :
    ∃ d', (generate config hooks g').result = .ok d' := by
  obtain ⟨bases, s, handlers, hs, hh, hd⟩ := result_generate_eq_ok.1 hg
  have hnew : ∀ t ∈ g'.types, t ∈ g.types ∨ t.directives.polymorphic? = none := fun t ht =>
    Or.inl (h.mem_iff.2 ht)
  obtain ⟨bases', s', hs', hagree⟩ := (TypeGraph.agreeOn_of_perm h).exists_scope hs hnew
  have haccepted := isAccepted_of_perm hz h hagree hs.graph_eq (exists_generateIn_iff.1 ⟨d, hd⟩)
  obtain ⟨d', hd'⟩ := exists_generateIn_iff.2 haccepted
  exact ⟨d', result_generate_eq_ok.2 ⟨bases', s', handlers, hs', hh, hd'⟩⟩

/-- Without interceptors the order of declarations hardly matters. A document is generated in one
order exactly if one is in another. Both have the same component names, with the same schemas but
for the discriminator value of classes that two bases list; the same operations under the same paths
and verbs but for the identifiers; and the same identifiers. -/
theorem declaration_order_irrelevant (config : Config) (hooks : Hooks)
    (hz : hooks.interceptorCount = 0) (g g' : TypeGraph) (h : g.types.Perm g'.types) :
    ((∃ d, (generate config hooks g).result = .ok d) ↔
      ∃ d', (generate config hooks g').result = .ok d') ∧
    ∀ d d', (generate config hooks g).result = .ok d →
      (generate config hooks g').result = .ok d' →
      d.components.keys = d'.components.keys ∧
      (∀ name schema schema', d.components.get? name = some schema →
        d'.components.get? name = some schema' → schema.unstamped = schema'.unstamped ∧
          (schema = schema' ∨ ∃ t ∈ candidateTypes config hooks g, t.simpleName = name ∧
            IsListedTwice config hooks g t.name)) ∧
      (∀ path verb, (d.operation? path verb).map Operation.withoutId =
        (d'.operation? path verb).map Operation.withoutId) ∧
      (d.operations.map (·.id)).Perm (d'.operations.map (·.id)) := by
  refine ⟨⟨?_, ?_⟩, ?_⟩
  · rintro ⟨d, hg⟩
    exact exists_generate_of_perm hz h hg
  · rintro ⟨d', hg'⟩
    exact exists_generate_of_perm hz h.symm hg'
  · intro d d' hg hg'
    obtain ⟨bases, s, handlers, hs, hh, hd⟩ := result_generate_eq_ok.1 hg
    obtain ⟨bases', s', handlers', hs', hh', hd'⟩ := result_generate_eq_ok.1 hg'
    obtain rfl : handlers = handlers' := Except.ok.inj (hh.symm.trans hh')
    have hagree := (TypeGraph.agreeOn_of_perm h).scope hs hs'
    obtain ⟨hkeys, hcomponents⟩ := components_of_perm hz h hs hs' hd hd'
    obtain ⟨hoperations, hids⟩ := operations_of_perm h hagree hs.graph_eq hd hd'
    exact ⟨hkeys, hcomponents, hoperations, hids⟩

/-- The configuration of a fleet that is reached over the web. -/
def rentalConfig : Config := { modelNamespaces := ["fleet"], handlerNamespaces := ["rental.web"] }

/-- A handler with one operation, which finds something under a path. -/
def findingHandler (name path : String) : TypeDescriptor where
  name
  directives := [.route (.base path)]
  methods := [{ name := "find", directives := [.route { verbs := [.get] }] }]

/-- A class in two bases, and two handlers whose operations have one identifier. -/
def rentalTypes : List TypeDescriptor :=
  [vehicleType, assetType, carType, findingHandler "rental.web.Cars" "/cars",
    findingHandler "rental.web.Bikes" "/bikes"]

def rentalGraph : TypeGraph := ⟨rentalTypes, by decide +kernel⟩

def reversedRentalGraph : TypeGraph := ⟨rentalTypes.reverse, by decide +kernel⟩

theorem declaration_order_irrelevant_rental :
    Hooks.none.interceptorCount = 0 ∧ rentalGraph.types.Perm reversedRentalGraph.types ∧
    ∃ d d', (generate rentalConfig Hooks.none rentalGraph).result = .ok d ∧
      (generate rentalConfig Hooks.none reversedRentalGraph).result = .ok d' ∧
      d.components.keys = d'.components.keys ∧
      (d.operation? "/cars" .get).map Operation.withoutId =
        (d'.operation? "/cars" .get).map Operation.withoutId ∧
      (d.operation? "/cars" .get).map (·.id) ≠ (d'.operation? "/cars" .get).map (·.id) ∧
      (d.operations.map (·.id)).Perm (d'.operations.map (·.id)) := by
  have hperm : rentalGraph.types.Perm reversedRentalGraph.types :=
    (List.reverse_perm rentalTypes).symm
  obtain ⟨hiff, hall⟩ := declaration_order_irrelevant rentalConfig Hooks.none rfl rentalGraph
    reversedRentalGraph hperm
  obtain ⟨d, hd⟩ := exists_eq_ok_of_toBool
    (show (generate rentalConfig Hooks.none rentalGraph).result.toBool = true by decide +kernel)
  obtain ⟨d', hd'⟩ := hiff.1 ⟨d, hd⟩
  obtain ⟨hkeys, -, hoperations, hids⟩ := hall d d' hd hd'
  have hfirst : (generate rentalConfig Hooks.none rentalGraph).result.map
      (fun d => (d.operation? "/cars" .get).map (·.id)) = .ok (some "findUsingGET") := by
    decide +kernel
  have hsecond : (generate rentalConfig Hooks.none reversedRentalGraph).result.map
      (fun d => (d.operation? "/cars" .get).map (·.id)) = .ok (some "findUsingGET_1") := by
    decide +kernel
  rw [hd] at hfirst
  rw [hd'] at hsecond
  have hid : (d.operation? "/cars" .get).map (·.id) = some "findUsingGET" := Except.ok.inj hfirst
  have hid' : (d'.operation? "/cars" .get).map (·.id) = some "findUsingGET_1" :=
    Except.ok.inj hsecond
  refine ⟨rfl, hperm, d, d', hd, hd', hkeys, hoperations "/cars" .get, ?_, hids⟩
  rw [hid, hid']
  decide

end ApiContract
