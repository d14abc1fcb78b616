import ApiContract.Proofs.Bases
import ApiContract.Proofs.ClassObject
import ApiContract.Proofs.Generation
import ApiContract.Proofs.OperationValues
import ApiContract.Proofs.PairedWalks
/-!
# Scopes that agree

A transformation looks up names and nothing else. So two graphs that have the same types under some
names, among them all that these types mention, give the same components and the same operations for
them. Only the discriminator value of a class is found by a search through all bases, and may
differ.

* `TypeDescriptor.mentionedNames` : the names that a type mentions.
* `TypeGraph.AgreeOn`, `Scope.AgreeOn` : two graphs and their scopes agree on some names.
* `TypeGraph.AgreeOn.exists_scope` : graphs that agree have scopes that agree.
* `resolveAncestry_eq_ok` : superclasses.
* `objectOf_eq`, `componentOf_eq_ok` : objects and components.
* `handlerOperations_eq` : operations.
-/

namespace ApiContract

/-! ## Names -/

/-- The name in a value type, if there is one. -/
def TypeRef.name? (u : TypeRef) : Option String :=
  match u.leaf with
  | .named name => some name
  | _ => none

namespace TypeDescriptor

/-- The names of the subclasses that a type lists, if it declares a polymorphic base. -/
def subclassNames (t : TypeDescriptor) : List String :=
  match t.directives.polymorphic? with
  | some (_, subtypes) => subtypes.map (·.typeName)
  | none => []

/-- The value types of a type: those of its fields, and those of the parameters and responses of its
methods. -/
def valueTypes (t : TypeDescriptor) : List TypeRef :=
  t.fields.map (·.type) ++
    t.methods.flatMap fun m => m.parameterTypes ++ (m.responseTypes ++ m.headerTypes)

/-- The names that a type mentions: its superclass, the subclasses that it lists, and the names in
its value types. -/
def mentionedNames (t : TypeDescriptor) : List String :=
  t.superclass.toList ++ (t.subclassNames ++ t.valueTypes.filterMap (·.name?))

variable {t : TypeDescriptor}

theorem mem_mentionedNames_of_superclass {name : String} (h : t.superclass = some name) :
    name ∈ t.mentionedNames := List.mem_append_left _ (Option.mem_toList.2 h)

theorem mem_mentionedNames_of_subclass {name : String} (h : name ∈ t.subclassNames) :
    name ∈ t.mentionedNames := List.mem_append_right _ (List.mem_append_left _ h)

theorem mem_mentionedNames_of_value {u : TypeRef} (hu : u ∈ t.valueTypes) {name : String}
    (h : u.name? = some name) : name ∈ t.mentionedNames :=
  List.mem_append_right _ (List.mem_append_right _ (List.mem_filterMap.2 ⟨u, hu, h⟩))

theorem mem_subclassNames {property : Option String} {subtypes : List SubtypeDecl}
    (h : t.directives.polymorphic? = some (property, subtypes)) {d : SubtypeDecl}
    (hd : d ∈ subtypes) : d.typeName ∈ t.subclassNames := by
  unfold subclassNames
  rw [h]
  exact List.mem_map_of_mem hd

end TypeDescriptor

/-- The schema without the discriminator value that its composition names. -/
def Schema.unstamped (s : Schema) : Schema :=
  match s.shape with
  | .composed c => { s with shape := .composed { c with value := none } }
  | _ => s

/-- Two graphs have the same types under the names that are known. These are closed: what a type of
the first graph mentions is known, and so is its own name. -/
structure TypeGraph.AgreeOn (known : String → Prop) (g g' : TypeGraph) : Prop where
  get?_eq : ∀ name, known name → g.get? name = g'.get? name
  own : ∀ t ∈ g.types, known t.name
  mentioned : ∀ t ∈ g.types, ∀ name ∈ t.mentionedNames, known name

/-- Two scopes over graphs that agree say the same about the names that are known. -/
structure Scope.AgreeOn (known : String → Prop) (s s' : Scope) : Prop where
  graph : s.graph.AgreeOn known s'.graph
  isComponent_eq : ∀ name, known name → s.isComponent name = s'.isComponent name
  isRootType_eq : ∀ name, s.isRootType name = s'.isRootType name
  polymorphicBase?_eq : ∀ name, known name → s.polymorphicBase? name = s'.polymorphicBase? name

/-- Related superclasses are the same where related types are, and what holds of these types holds
of all superclasses to copy. -/
theorem ancestry_eq_of_rel {q : TypeDescriptor → Prop} {a a' : Ancestry}
    (h : AncestryRel (fun p p' => q p ∧ p = p') a a') : a = a' ∧ ∀ u ∈ a.flattened, q u := by
  obtain ⟨flattened, parent⟩ := a
  obtain ⟨flattened', parent'⟩ := a'
  obtain ⟨hflattened, hparent⟩ := h
  obtain ⟨hall, heq⟩ := (List.forall₂_and_left ..).1 hflattened
  rw [List.forall₂_eq_eq_eq] at heq
  obtain rfl : flattened = flattened' := heq
  refine ⟨?_, hall⟩
  cases hparent with
  | none => rfl
  | some hp => rw [hp.2]

namespace Scope.AgreeOn

variable {known : String → Prop} {s s' : Scope} {t : TypeDescriptor} {hooks : Hooks}

/-! ## Value types -/

theorem namedNode_eq (h : AgreeOn known s s') (style : ReferenceStyle) {name : String}
    (hname : known name) : namedNode s style name = namedNode s' style name := by
  have hcomponent : s.component? name = s'.component? name := by
    unfold Scope.component? Scope.lookup?
    rw [h.graph.get?_eq name hname, h.isComponent_eq name hname]
  unfold namedNode
  rw [hcomponent, h.polymorphicBase?_eq name hname]

/-- A value type has the same schema in both scopes, if the name in it is known. -/
theorem schema?_eq (h : AgreeOn known s s') (style : ReferenceStyle) {u : TypeRef}
    (hu : ∀ name, u.name? = some name → known name) : schema? s style u = schema? s' style u := by
  have hleaf : leafNode? s style u.leaf = leafNode? s' style u.leaf := by
    cases hl : u.leaf with
    | named name =>
      have hname : u.name? = some name := by rw [TypeRef.name?, hl]
      exact congrArg some (h.namedNode_eq style (hu name hname))
    | _ => rfl
  rw [schema?, schema?, hleaf]

/-- The names in the value types of a type are known. -/
theorem known_of_valueTypes (h : AgreeOn known s s') (ht : t ∈ s.graph.types) {u : TypeRef}
    (hu : u ∈ t.valueTypes) (name : String) (hname : u.name? = some name) : known name :=
  h.graph.mentioned t ht name (TypeDescriptor.mem_mentionedNames_of_value hu hname)

/-! ## Superclasses -/

/-- Both scopes find the same types under the known names. -/
theorem answersAlike (h : AgreeOn known s s') :
    AnswersAlike known (fun p p' => p ∈ s.graph.types ∧ p = p') s s' where
  isRootType_eq name _ := h.isRootType_eq name
  isComponent_eq := h.isComponent_eq
  get?_eq_none name hname hlook := (h.graph.get?_eq name hname).symm.trans hlook
  exists_get? name hname p hlook :=
    ⟨p, (h.graph.get?_eq name hname).symm.trans hlook, TypeGraph.mem_of_get? hlook, rfl⟩
  superclass_eq := by
    rintro p _ ⟨-, rfl⟩
    rfl
  known_superclass := by
    rintro p _ ⟨hp, rfl⟩ name hname
    exact h.graph.mentioned p hp name (TypeDescriptor.mem_mentionedNames_of_superclass hname)

/-- Both scopes find the same superclasses of a type. -/
theorem resolveAncestry_eq_ok (h : AgreeOn known s s') (ht : t ∈ s.graph.types)
    {ancestry : Ancestry} (ha : (resolveAncestry s t).result = .ok ancestry) :
    (resolveAncestry s' t).result = .ok ancestry ∧
      ∀ u ∈ ancestry.flattened, u ∈ s.graph.types := by
  have hsuper : ∀ name, t.superclass = some name → known name := fun name hname =>
    h.graph.mentioned t ht name (TypeDescriptor.mem_mentionedNames_of_superclass hname)
  have hpaired := h.answersAlike.walkAncestry_paired t.name [t.name] t.superclass hsuper
  obtain ⟨ancestry', ha', hrel⟩ := hpaired.exists_of_ok ha
  obtain ⟨rfl, hflattened⟩ := ancestry_eq_of_rel hrel
  exact ⟨ha', hflattened⟩

/-! ## Components -/

theorem insertFields_eq (h : AgreeOn known s s') {fields : List FieldDescriptor}
    (hf : ∀ f ∈ fields, ∀ name, f.type.name? = some name → known name) (o : ObjectShape Schema) :
    o.insertFields s fields = o.insertFields s' fields := by
  induction fields generalizing o with
  | nil => rfl
  | cons f rest ih =>
    obtain ⟨hfirst, hrest⟩ := List.forall_mem_cons.1 hf
    cases hm : f.isMapped with
    | true =>
      have hschema : f.schema s = f.schema s' := by
        unfold FieldDescriptor.schema
        rw [h.schema?_eq .polymorphic hfirst]
      rw [insertFields_cons_of_mapped hm, insertFields_cons_of_mapped hm, hschema]
      exact ih hrest _
    | false =>
      rw [insertFields_cons_of_not_mapped hm, insertFields_cons_of_not_mapped hm]
      exact ih hrest _

theorem objectOf_eq (h : AgreeOn known s s') (ht : t ∈ s.graph.types)
    {flattened : List TypeDescriptor} (hflattened : ∀ u ∈ flattened, u ∈ s.graph.types) :
    objectOf s flattened t = objectOf s' flattened t := by
  have hfields : ∀ f ∈ declaredFields flattened t, ∀ name,
      f.type.name? = some name → known name := by
    intro f hf
    obtain ⟨u, hu, hfu⟩ : ∃ u ∈ s.graph.types, f ∈ u.fields := by
      unfold declaredFields at hf
      rcases List.mem_append.1 hf with hf | hf
      · obtain ⟨u, hu, hfu⟩ := List.mem_flatMap.1 hf
        exact ⟨u, hflattened u (List.mem_reverse.1 hu), hfu⟩
      · exact ⟨t, ht, hf⟩
    have hvalue : f.type ∈ u.valueTypes := List.mem_append_left _ (List.mem_map_of_mem hfu)
    exact h.known_of_valueTypes hu hvalue
  unfold objectOf
  rw [h.polymorphicBase?_eq t.name (h.graph.own t ht), h.insertFields_eq hfields]

/-- The schema of a class is the same in both scopes, but for the discriminator value. -/
theorem unstamped_classNode_eq (h : AgreeOn known s s') (ht : t ∈ s.graph.types)
    {ancestry : Ancestry} (hflattened : ∀ u ∈ ancestry.flattened, u ∈ s.graph.types) :
    (t.directives.applyToType (classNode s t ancestry)).unstamped =
        (t.directives.applyToType (classNode s' t ancestry)).unstamped ∧
      (subclassTag? s t.name = subclassTag? s' t.name →
        classNode s t ancestry = classNode s' t ancestry) := by
  have hobject : objectOf s ancestry.flattened t = objectOf s' ancestry.flattened t :=
    h.objectOf_eq ht hflattened
  unfold classNode
  rw [hobject]
  cases ancestry.parent with
  | none => exact ⟨rfl, fun _ => rfl⟩
  | some parent =>
    refine ⟨rfl, ?_⟩
    intro htag
    rw [htag]

/-- A component that one scope gives is given by the other one, but for the discriminator value. -/
theorem componentOf_eq_ok (h : AgreeOn known s s') (hz : hooks.interceptorCount = 0)
    (ht : t ∈ s.graph.types) {schema : Schema}
    (hs : (componentOf s hooks t).result = .ok schema) :
    ∃ schema', (componentOf s' hooks t).result = .ok schema' ∧
      schema.unstamped = schema'.unstamped ∧
      (subclassTag? s t.name = subclassTag? s' t.name → schema = schema') := by
  simp only [result_componentOf_eq_ok hz] at hs ⊢
  rcases hs with ⟨henum, rfl⟩ | ⟨henum, ancestry, ha, hplain, rfl⟩
  · exact ⟨_, Or.inl ⟨henum, rfl⟩, rfl, fun _ => rfl⟩
  · obtain ⟨ha', hflattened⟩ := h.resolveAncestry_eq_ok ht ha
    obtain ⟨hunstamped, hequal⟩ := h.unstamped_classNode_eq ht hflattened
    refine ⟨_, Or.inr ⟨henum, ancestry, ha', hplain, rfl⟩, hunstamped, ?_⟩
    intro htag
    rw [hequal htag]

/-! ## Operations -/

section

variable {m : MethodDescriptor}

theorem listedParameter?_eq (h : AgreeOn known s s') {p : ParameterDescriptor}
    (hp : ∀ name, p.type.name? = some name → known name) :
    listedParameter? s hooks m p = listedParameter? s' hooks m p := by
  unfold listedParameter?
  rw [h.schema?_eq .direct hp]

theorem requestBody?_eq (h : AgreeOn known s s') (route : Route) {p : ParameterDescriptor}
    (hp : ∀ name, p.type.name? = some name → known name) :
    requestBody? s hooks m route p = requestBody? s' hooks m route p := by
  unfold requestBody? bodyContent?
  rw [h.schema?_eq .direct hp]

theorem responseValue_eq (h : AgreeOn known s s') (contentType : String) {d : ResponseDecl}
    (hbody : ∀ u, d.body = some u → ∀ name, u.name? = some name → known name)
    (hheaders : ∀ u ∈ d.headers.values.map (·.type), ∀ name, u.name? = some name → known name) :
    responseValue s contentType d = responseValue s' contentType d := by
  have hcontent : d.body.bind (schema? s .direct) = d.body.bind (schema? s' .direct) := by
    cases hb : d.body with
    | none => rfl
    | some u => exact h.schema?_eq .direct (hbody u hb)
  have hvalues : headerValues s d.headers = headerValues s' d.headers := by
    unfold headerValues Assoc.mapValues
    refine List.map_congr_left ?_
    intro header hmem
    have htype : header.2.type ∈ d.headers.values.map (·.type) :=
      List.mem_map_of_mem (List.mem_map_of_mem hmem)
    simp only [h.schema?_eq .direct (hheaders _ htype)]
  unfold responseValue
  rw [hcontent, hvalues]

theorem responseValues_eq (h : AgreeOn known s s') (route : Route)
    (hm : ∀ u ∈ m.responseTypes ++ m.headerTypes, ∀ name, u.name? = some name → known name) :
    responseValues s m route = responseValues s' m route := by
  unfold MethodDescriptor.responseTypes MethodDescriptor.headerTypes at hm
  unfold responseValues
  cases hd : m.directives.responses? with
  | none =>
    rw [hd] at hm
    have hreturns := hm m.returns (List.mem_append_left _ (List.mem_singleton.2 rfl))
    simp only [h.schema?_eq .direct hreturns]
  | some declared =>
    rw [hd] at hm
    refine List.map_congr_left ?_
    intro d hmem
    have hbody : ∀ u, d.body = some u → ∀ name, u.name? = some name → known name :=
      fun u hu => hm u (List.mem_append_left _ (List.mem_filterMap.2 ⟨d, hmem, hu⟩))
    have hheaders : ∀ u ∈ d.headers.values.map (·.type), ∀ name,
        u.name? = some name → known name :=
      fun u hu => hm u (List.mem_append_right _ (List.mem_flatMap.2 ⟨d, hmem, hu⟩))
    rw [h.responseValue_eq _ hbody hheaders]

/-- A routed method has the same operations in both scopes. -/
theorem methodOperations_eq (h : AgreeOn known s s') (ht : t ∈ s.graph.types)
    (hm : m ∈ t.methods) (route : Route) :
    methodOperations s hooks t m route = methodOperations s' hooks t m route := by
  have htypes : ∀ u ∈ m.parameterTypes ++ (m.responseTypes ++ m.headerTypes), ∀ name,
      u.name? = some name → known name := fun u hu =>
    h.known_of_valueTypes ht (List.mem_append_right _ (List.mem_flatMap.2 ⟨m, hm, hu⟩))
  have hparameter : ∀ p ∈ m.parameters, ∀ name, p.type.name? = some name → known name :=
    fun p hp => htypes p.type (List.mem_append_left _ (List.mem_map_of_mem hp))
  have hparameters : ∀ body, listedParameters s hooks m body m.parameters.zipIdx =
      listedParameters s' hooks m body m.parameters.zipIdx := by
    intro body
    unfold listedParameters
    refine List.filterMap_congr ?_
    intro place hplace
    have hget := List.mk_mem_zipIdx_iff_getElem?.1 (List.mem_filter.1 hplace).1
    exact h.listedParameter?_eq (hparameter place.1 (List.mem_of_getElem? hget))
  have hbody : (((bodyPlace? hooks m).bind fun i => m.parameters[i]?).bind
      (requestBody? s hooks m route)) = ((bodyPlace? hooks m).bind fun i => m.parameters[i]?).bind
        (requestBody? s' hooks m route) := by
    cases hp : (bodyPlace? hooks m).bind fun i => m.parameters[i]? with
    | none => rfl
    | some p =>
      obtain ⟨i, -, hget⟩ := Option.bind_eq_some_iff.1 hp
      exact h.requestBody?_eq route (hparameter p (List.mem_of_getElem? hget))
  have hresponses : responseValues s m route = responseValues s' m route :=
    h.responseValues_eq route fun u hu => htypes u (List.mem_append_right _ hu)
  unfold methodOperations methodTemplate
  rw [hparameters, hbody, hresponses]

/-- A handler has the same operations in both scopes. -/
theorem handlerOperations_eq (h : AgreeOn known s s') (ht : t ∈ s.graph.types) :
    handlerOperations s hooks t = handlerOperations s' hooks t := by
  unfold handlerOperations
  by_cases hx : t.directives.isExcluded = true
  · rw [if_pos hx, if_pos hx]
  · rw [if_neg hx, if_neg hx]
    refine List.flatMap_congr ?_
    intro m hm
    refine List.flatMap_congr ?_
    intro route _
    exact h.methodOperations_eq ht hm route

end

end Scope.AgreeOn

/-! ## The scopes of graphs that agree -/

variable {config : Config} {hooks : Hooks} {known : String → Prop} {g g' : TypeGraph}
  {bases bases' : PolymorphismMap} {s s' : Scope}

theorem isCandidateName_iff_get? {name : String} :
    IsCandidateName config hooks g name ↔
      ∃ t, g.get? name = some t ∧ isCandidate config hooks t = true := by
  simp only [IsCandidateName, mem_candidateTypes, TypeGraph.get?_eq_some_iff]
  constructor
  · rintro ⟨t, ⟨ht, hc⟩, hname⟩
    exact ⟨t, ⟨ht, hname⟩, hc⟩
  · rintro ⟨t, ⟨ht, hname⟩, hc⟩
    exact ⟨t, ⟨ht, hc⟩, hname⟩

/-- The base with a name is the one that the candidate with the name declares. -/
theorem IsScopeOf.polymorphicBase?_eq_some_iff (h : IsScopeOf config hooks g bases s)
    {name : String} {b : PolymorphicBase} :
    s.polymorphicBase? name = some b ↔ ∃ t ∈ candidateTypes config hooks g, t.name = name ∧
      declaredBase? ((candidateTypes config hooks g).map (·.name)) t = some b := by
  have hnodup : bases.keys.Nodup := h.keys_bases_sublist.nodup nodup_names_candidateTypes
  rw [h.polymorphicBase?_eq, Assoc.get?_eq_some_iff hnodup, h.bases_eq_declared.2,
    mem_declaredBases]

namespace TypeGraph.AgreeOn

theorem isCandidateName_iff (h : g.AgreeOn known g') {name : String} (hname : known name) :
    IsCandidateName config hooks g name ↔ IsCandidateName config hooks g' name := by
  rw [isCandidateName_iff_get?, isCandidateName_iff_get?, h.get?_eq name hname]

theorem mem_names_iff (h : g.AgreeOn known g') {name : String} (hname : known name) :
    name ∈ (candidateTypes config hooks g).map (·.name) ↔
      name ∈ (candidateTypes config hooks g').map (·.name) := by
  rw [List.mem_map, List.mem_map]
  exact h.isCandidateName_iff hname

/-- The subclasses that a type lists are known. -/
theorem known_subclass (h : g.AgreeOn known g') {t : TypeDescriptor} (ht : t ∈ g.types)
    {property : Option String} {subtypes : List SubtypeDecl}
    (hp : t.directives.polymorphic? = some (property, subtypes)) {d : SubtypeDecl}
    (hd : d ∈ subtypes) : known d.typeName :=
  h.mentioned t ht _
    (TypeDescriptor.mem_mentionedNames_of_subclass (TypeDescriptor.mem_subclassNames hp hd))

theorem mem_types (h : g.AgreeOn known g') {t : TypeDescriptor} (ht : t ∈ g.types) :
    t ∈ g'.types := by
  have hget := h.get?_eq t.name (h.own t ht)
  rw [get?_of_mem ht] at hget
  exact mem_of_get? hget.symm

theorem mem_candidateTypes (h : g.AgreeOn known g') {t : TypeDescriptor}
    (ht : t ∈ candidateTypes config hooks g) : t ∈ candidateTypes config hooks g' := by
  obtain ⟨hmem, hc⟩ := ApiContract.mem_candidateTypes.1 ht
  exact ApiContract.mem_candidateTypes.2 ⟨h.mem_types hmem, hc⟩

/-- A type with a known name is in both graphs or in none. -/
theorem mem_candidateTypes_of_known (h : g.AgreeOn known g') {t : TypeDescriptor}
    (hname : known t.name) (ht : t ∈ candidateTypes config hooks g') :
    t ∈ candidateTypes config hooks g := by
  obtain ⟨hmem, hc⟩ := ApiContract.mem_candidateTypes.1 ht
  have hget := h.get?_eq t.name hname
  rw [get?_of_mem hmem] at hget
  exact ApiContract.mem_candidateTypes.2 ⟨mem_of_get? hget, hc⟩

/-- A type declares the same base in both graphs. -/
theorem declaredBase?_eq (h : g.AgreeOn known g') {t : TypeDescriptor} (ht : t ∈ g.types) :
    declaredBase? ((candidateTypes config hooks g).map (·.name)) t =
      declaredBase? ((candidateTypes config hooks g').map (·.name)) t := by
  unfold declaredBase?
  cases hp : t.directives.polymorphic? with
  | none => rfl
  | some declaration =>
    obtain ⟨property, subtypes⟩ := declaration
    have hkept : keptSubtypes ((candidateTypes config hooks g).map (·.name)) subtypes =
        keptSubtypes ((candidateTypes config hooks g').map (·.name)) subtypes := by
      unfold keptSubtypes
      refine congrArg _ (List.filter_congr ?_)
      intro d hd
      exact decide_eq_decide.2 (h.mem_names_iff (h.known_subclass ht hp hd))
    simp only [Option.map_some, hkept]

/-- A declaration that is well formed in one graph is so in the other one. -/
theorem isWellFormed (h : g.AgreeOn known g') {t : TypeDescriptor} (ht : t ∈ g.types)
    {property : Option String} {subtypes : List SubtypeDecl}
    (hp : t.directives.polymorphic? = some (property, subtypes))
    (hwf : IsWellFormed g ((candidateTypes config hooks g).map (·.name)) property subtypes) :
    IsWellFormed g' ((candidateTypes config hooks g').map (·.name)) property subtypes := by
  have hknown : ∀ d ∈ subtypes, known d.typeName := fun d hd => h.known_subclass ht hp hd
  refine ⟨hwf.not_blank, ?_, hwf.nodup_tags, hwf.nodup_classes, ?_⟩
  · intro d hd
    have hd' := hwf.known d hd
    unfold TypeGraph.contains at hd' ⊢
    rwa [← h.get?_eq _ (hknown d hd)]
  · obtain ⟨d, hd, hmem⟩ := hwf.kept
    exact ⟨d, hd, (h.mem_names_iff (hknown d hd)).1 hmem⟩

/-- Scopes of graphs that agree. -/
theorem scope (h : g.AgreeOn known g') (hs : IsScopeOf config hooks g bases s)
    (hs' : IsScopeOf config hooks g' bases' s') : s.AgreeOn known s' where
  graph := by
    rw [hs.graph_eq, hs'.graph_eq]
    exact h
  isComponent_eq := by
    intro name hname
    rw [Bool.eq_iff_iff, hs.isComponent_iff, hs'.isComponent_iff]
    exact h.isCandidateName_iff hname
  isRootType_eq := by
    intro name
    rw [Bool.eq_iff_iff, hs.isRootType_iff, hs'.isRootType_iff]
  polymorphicBase?_eq := by
    intro name hname
    apply Option.ext
    intro b
    rw [hs.polymorphicBase?_eq_some_iff, hs'.polymorphicBase?_eq_some_iff]
    constructor
    · rintro ⟨t, ht, rfl, hb⟩
      rw [h.declaredBase?_eq (mem_types_of_mem_candidateTypes ht)] at hb
      exact ⟨t, h.mem_candidateTypes ht, rfl, hb⟩
    · rintro ⟨t, ht, rfl, hb⟩
      have ht := h.mem_candidateTypes_of_known hname ht
      rw [← h.declaredBase?_eq (mem_types_of_mem_candidateTypes ht)] at hb
      exact ⟨t, ht, rfl, hb⟩

/-- If a graph has a scope, so has one that agrees with it and adds no polymorphic bases. -/
theorem exists_scope (h : g.AgreeOn known g') (hs : IsScopeOf config hooks g bases s)
    (hnew : ∀ t ∈ g'.types, t ∈ g.types ∨ t.directives.polymorphic? = none) :
    ∃ bases' s', IsScopeOf config hooks g' bases' s' ∧ s.AgreeOn known s' := by
  have hwf : ∀ t ∈ candidateTypes config hooks g', ∀ property subtypes,
      t.directives.polymorphic? = some (property, subtypes) →
        IsWellFormed g' ((candidateTypes config hooks g').map (·.name)) property subtypes := by
    intro t ht property subtypes hp
    rcases hnew t (mem_types_of_mem_candidateTypes ht) with hmem | hnone
    · have ht := h.mem_candidateTypes_of_known (h.own t hmem) ht
      exact h.isWellFormed hmem hp (hs.bases_eq_declared.1 t ht property subtypes hp)
    · rw [hnone] at hp
      cases hp
  have hbases := (result_resolvePolymorphism_eq_ok nodup_names_candidateTypes).2 ⟨hwf, rfl⟩
  have hs' := isScopeOf_generationScope hs.namespaces_eq hbases
  exact ⟨_, _, hs', h.scope hs hs'⟩

end TypeGraph.AgreeOn
end ApiContract
