import ApiContract.Proofs.EffectiveNames
import ApiContract.Proofs.NestedArrays
import ApiContract.Proofs.OperationPlaces
import ApiContract.Proofs.SuperclassCycles
/-!
# Faulty declarations

A generation fails exactly on faulty declarations. `IsFaulty` lists the faults, one constructor for
each, in terms of what is declared; elements that are left out of the document are not looked at.

* `IsFaultyBase`, `IsFaultyMethod`, `IsFaultyHandler`, `IsFaultyClass`, `IsFaulty` : the faults.
* `exists_ofTexts_iff`, `exists_componentOf_iff`, `exists_componentsOf` : what the stages accept.
* `exists_generateIn_iff` : what is accepted once the scope is known.
* `exists_generate_iff` : a document is generated exactly if everything is sound.
* `generate_fails_iff` : a generation fails exactly on faulty declarations.
-/

namespace ApiContract

open Relation

/-! ## Patterns -/

/-- The segments of the text of a namespace pattern. -/
def patternSegments (text : String) : List (List Char) := Text.splitOn '.' (Text.trim text.toList)

/-- A segment of a pattern is empty, or holds an asterisk and is no wildcard. -/
def IsFaultySegment (segment : List Char) : Prop :=
  segment = [] ∨ ('*' ∈ segment ∧ segment ≠ ['*'] ∧ segment ≠ ['*', '*'])

/-- No segment of a pattern is faulty. -/
def IsSoundPattern (text : String) : Prop :=
  ∀ segment ∈ patternSegments text, ¬ IsFaultySegment segment

theorem exists_parseSegment_iff {text : String} {segment : List Char} :
    (∃ p, NamespacePattern.parseSegment text segment = .ok p) ↔ ¬ IsFaultySegment segment := by
  rw [NamespacePattern.parseSegment, IsFaultySegment]
  by_cases hone : segment = ['*']
  · simp [hone]
  by_cases hmany : segment = ['*', '*']
  · simp [hmany]
  by_cases hempty : segment = []
  · simp [hempty]
  by_cases hstar : '*' ∈ segment
  · simp [hone, hmany, hempty, hstar]
  · simp [hone, hmany, hempty, hstar]

theorem exists_mapM_iff {α β ε : Type} {f : α → Except ε β} {xs : List α} :
    (∃ ys, xs.mapM f = .ok ys) ↔ ∀ x ∈ xs, ∃ y, f x = .ok y := by
  induction xs with
  | nil => exact ⟨fun _ => nofun, fun _ => ⟨[], rfl⟩⟩
  | cons x rest ih =>
    rw [List.forall_mem_cons, ← ih, List.mapM_cons]
    constructor
    · rintro ⟨ys, h⟩
      obtain ⟨y, hy, h⟩ := exceptBind_eq_ok.1 h
      obtain ⟨ys', hys', -⟩ := exceptBind_eq_ok.1 h
      exact ⟨⟨y, hy⟩, ys', hys'⟩
    · rintro ⟨⟨y, hy⟩, ys, hys⟩
      exact ⟨y :: ys, exceptBind_eq_ok.2 ⟨y, hy, exceptBind_eq_ok.2 ⟨ys, hys, rfl⟩⟩⟩

theorem exists_parse_iff {text : String} :
    (∃ p, NamespacePattern.parse text = .ok p) ↔ IsSoundPattern text := by
  have hsegments : IsSoundPattern text ↔
      ∃ segments, (patternSegments text).mapM (NamespacePattern.parseSegment text) =
        .ok segments := by
    simp only [exists_mapM_iff, exists_parseSegment_iff, IsSoundPattern]
  rw [hsegments, NamespacePattern.parse, ← patternSegments]
  cases (patternSegments text).mapM (NamespacePattern.parseSegment text) with
  | error problem => simp [Except.map]
  | ok segments => simp [Except.map]

/-- Patterns are read exactly if all of them are sound. -/
theorem exists_ofTexts_iff {texts : List String} :
    (∃ m, NamespaceMatcher.ofTexts texts = .ok m) ↔ ∀ text ∈ texts, IsSoundPattern text := by
  simp only [← exists_parse_iff, ← exists_mapM_iff, NamespaceMatcher.ofTexts]
  cases texts.mapM NamespacePattern.parse with
  | error problem => simp
  | ok patterns => simp

/-! ## Faults of declarations -/

/-- What is wrong with a polymorphic declaration; `names` are those of the candidates. -/
inductive IsFaultyBase (graph : TypeGraph) (names : List String) (property : Option String)
    (subtypes : List SubtypeDecl) : Prop
  | noSubclasses (h : subtypes = [])
  | blank (h : isBlankProperty property = true)
  | unknown (d : SubtypeDecl) (hd : d ∈ subtypes) (h : graph.contains d.typeName = false)
  | repeatedTag (h : ¬ (subtypes.map (·.resolvedTag)).Nodup)
  | repeatedClass (h : ¬ (subtypes.map (·.typeName)).Nodup)
  | noneKept (h : ∀ d ∈ subtypes, d.typeName ∉ names)

/-- What is wrong with a routed method. -/
inductive IsFaultyMethod (hooks : Hooks) (m : MethodDescriptor) (route : Route) : Prop
  | noVerbs (h : route.verbs = [])
  | severalBodies
      (h : 1 < (m.parameters.filter fun p => p.isBodyBound && isIncludedParameter hooks m p).length)
  | parameter (p : ParameterDescriptor) (hp : p ∈ m.parameters)
      (hi : isIncludedParameter hooks m p = true) (hb : p.directives.binding?.isSome = true)
      (h : p.type.nestsContainers = true)
  | response (t : TypeRef) (ht : t ∈ m.responseTypes ++ m.headerTypes)
      (h : t.nestsContainers = true)
  | repeatedCode (declared : List ResponseDecl) (hd : m.directives.responses? = some declared)
      (h : ¬ (declared.map (·.code)).Nodup)

/-- What is wrong with a handler. -/
inductive IsFaultyHandler (hooks : Hooks) (handler : TypeDescriptor) : Prop
  | base (route : Route) (hr : handler.directives.route? = some route) (h : 1 < route.paths.length)
  | method (m : MethodDescriptor) (hm : m ∈ handler.methods) (route : Route)
      (hr : includedRoute? hooks handler m = some route) (h : IsFaultyMethod hooks m route)

/-- What is wrong with the declarations of a graph and its configuration: a segment of a pattern; a
polymorphic declaration; two candidates with one simple name; a class whose superclasses come back;
a field of a class, or of a type copied into it, with containers in containers; a handler; and two
positions with one place. -/
inductive IsFaulty (config : Config) (hooks : Hooks) (graph : TypeGraph) : Prop
  | pattern (text : String) (ht : text ∈ config.modelNamespaces ++ config.handlerNamespaces)
      (segment : List Char) (hs : segment ∈ patternSegments text) (h : IsFaultySegment segment)
  | base (t : TypeDescriptor) (ht : t ∈ candidateTypes config hooks graph)
      (property : Option String) (subtypes : List SubtypeDecl)
      (hp : t.directives.polymorphic? = some (property, subtypes))
      (h : IsFaultyBase graph ((candidateTypes config hooks graph).map (·.name)) property subtypes)
  | simpleName (t u : TypeDescriptor) (ht : t ∈ candidateTypes config hooks graph)
      (hu : u ∈ candidateTypes config hooks graph) (hne : t ≠ u) (h : t.simpleName = u.simpleName)
  | superclasses (t : TypeDescriptor) (ht : t ∈ candidateTypes config hooks graph)
      (h : Recurs config hooks graph t)
  | field (t : TypeDescriptor) (ht : t ∈ candidateTypes config hooks graph)
      (henum : t.isEnum = false) (owner : TypeDescriptor) (howner : owner ∈ graph.types)
      (hlinks : ReflTransGen (IsCopiedLink config hooks graph) t.name owner.name)
      (f : FieldDescriptor) (hf : f ∈ owner.fields) (hs : f.isSkipped = false)
      (h : f.type.nestsContainers = true)
  | handler (t : TypeDescriptor) (ht : t ∈ graph.types) (hi : isIncludedHandler config t = true)
      (h : IsFaultyHandler hooks t)
  | place (p q : Position) (hne : p ≠ q) (place : String × Verb)
      (hp : placeOf? config hooks graph p = some place)
      (hq : placeOf? config hooks graph q = some place)

variable {config : Config} {hooks : Hooks} {graph : TypeGraph} {bases : PolymorphismMap}
  {scope : Scope}

theorem isFaultyBase_iff {names : List String} {property : Option String}
    {subtypes : List SubtypeDecl} :
    IsFaultyBase graph names property subtypes ↔ ¬ IsWellFormed graph names property subtypes := by
  constructor
  · rintro h ⟨hblank, hknown, htags, hclasses, d, hd, hkept⟩
    cases h with
    | noSubclasses h =>
      rw [h] at hd
      cases hd
    | blank h =>
      rw [hblank] at h
      cases h
    | unknown d hd h =>
      rw [hknown d hd] at h
      cases h
    | repeatedTag h => exact h htags
    | repeatedClass h => exact h hclasses
    | noneKept h => exact h d hd hkept
  · intro h
    by_contra hnot
    refine h ⟨Bool.eq_false_iff.2 fun hb => hnot (.blank hb), fun d hd => ?_, ?_, ?_, ?_⟩
    · exact eq_true_of_ne_false fun hb => hnot (.unknown d hd hb)
    · exact by_contra fun hb => hnot (.repeatedTag hb)
    · exact by_contra fun hb => hnot (.repeatedClass hb)
    · by_contra hb
      exact hnot (.noneKept fun d hd hn => hb ⟨d, hd, hn⟩)

theorem isFaultyMethod_iff {m : MethodDescriptor} {route : Route} :
    IsFaultyMethod hooks m route ↔ ¬ IsSoundMethod hooks m route := by
  constructor
  · rintro h ⟨hverbs, hone, hparameters, hresponses, hcodes⟩
    cases h with
    | noVerbs h => exact hverbs h
    | severalBodies h => exact absurd hone (Nat.not_le_of_lt h)
    | parameter p hp hi hb h =>
      rw [(p.type.nested?_eq_none_iff).1 (hparameters p hp hi hb)] at h
      cases h
    | response t ht h =>
      rw [(t.nested?_eq_none_iff).1 (hresponses t ht)] at h
      cases h
    | repeatedCode declared hd h => exact h (hcodes declared hd)
  · intro h
    by_contra hnot
    refine h ⟨fun hb => hnot (.noVerbs hb), Nat.le_of_not_lt fun hb => hnot (.severalBodies hb),
      fun p hp hi hb => ?_, fun t ht => ?_, fun declared hd => ?_⟩
    · exact (p.type.nested?_eq_none_iff).2
        (Bool.eq_false_iff.2 fun hn => hnot (.parameter p hp hi hb hn))
    · exact (t.nested?_eq_none_iff).2 (Bool.eq_false_iff.2 fun hn => hnot (.response t ht hn))
    · exact by_contra fun hn => hnot (.repeatedCode declared hd hn)

theorem isFaultyHandler_iff {handler : TypeDescriptor} :
    IsFaultyHandler hooks handler ↔ ¬ IsSoundHandler hooks handler := by
  constructor
  · rintro h ⟨hbase, hmethods⟩
    cases h with
    | base route hr h => exact absurd (hbase route hr) (Nat.not_le_of_lt h)
    | method m hm route hr h => exact isFaultyMethod_iff.1 h (hmethods m hm route hr)
  · intro h
    by_contra hnot
    refine h ⟨fun route hr => Nat.le_of_not_lt fun hb => hnot (.base route hr hb),
      fun m hm route hr => ?_⟩
    exact by_contra fun hb => hnot (.method m hm route hr (isFaultyMethod_iff.2 hb))

/-! ## What is accepted -/

/-- The superclasses of a class do not come back before another candidate, and the fields that
become its own have no containers in containers. -/
structure IsSoundClass (config : Config) (hooks : Hooks) (graph : TypeGraph)
    (t : TypeDescriptor) : Prop where
  ends : ¬ ComesBack (IsOwnLink config hooks graph t.name) t.name
  plain : ∀ owner ∈ graph.types,
    ReflTransGen (IsCopiedLink config hooks graph) t.name owner.name →
    ∀ f ∈ owner.fields, f.IsPlain

/-- What is wrong with a class: its superclasses come back before another candidate, or a list or an
array stands directly inside another one in a field that becomes its own. -/
inductive IsFaultyClass (config : Config) (hooks : Hooks) (graph : TypeGraph)
    (t : TypeDescriptor) : Prop
  | superclasses (h : ComesBack (IsOwnLink config hooks graph t.name) t.name)
  | field (owner : TypeDescriptor) (howner : owner ∈ graph.types)
      (hlinks : ReflTransGen (IsCopiedLink config hooks graph) t.name owner.name)
      (f : FieldDescriptor) (hf : f ∈ owner.fields) (hs : f.isSkipped = false)
      (h : f.type.nestsContainers = true)

theorem isFaultyClass_iff {t : TypeDescriptor} :
    IsFaultyClass config hooks graph t ↔ ¬ IsSoundClass config hooks graph t := by
  constructor
  · rintro hfaulty ⟨hends, hplain⟩
    cases hfaulty with
    | superclasses h => exact hends h
    | field owner howner hlinks f hf hs h =>
      have hnested := hplain owner howner hlinks f hf hs
      rw [(f.type.nested?_eq_none_iff).1 hnested] at h
      cases h
  · intro hsound
    by_contra hnot
    refine hsound ⟨fun h => hnot (.superclasses h), ?_⟩
    intro owner howner hlinks f hf hs
    rw [f.type.nested?_eq_none_iff, Bool.eq_false_iff]
    exact fun h => hnot (.field owner howner hlinks f hf hs h)

/-- The component of a type is made exactly if it is an enumeration or a sound class. -/
theorem exists_componentOf_iff (hz : hooks.interceptorCount = 0)
    (h : IsScopeOf config hooks graph bases scope) {t : TypeDescriptor} (ht : t ∈ graph.types) :
    (∃ s, (componentOf scope hooks t).result = .ok s) ↔
      (t.isEnum = false → IsSoundClass config hooks graph t) := by
  have hplain : ∀ {ancestry}, (resolveAncestry scope t).result = .ok ancestry →
      ((∀ f ∈ declaredFields ancestry.flattened t, f.IsPlain) ↔ ∀ owner ∈ graph.types,
        ReflTransGen (IsCopiedLink config hooks graph) t.name owner.name →
        ∀ f ∈ owner.fields, f.IsPlain) := by
    intro ancestry ha
    simp only [mem_declaredFields, eq_or_mem_flattened_iff h ht ha]
    constructor
    · exact fun hall owner howner hlinks f hf => hall f ⟨owner, ⟨howner, hlinks⟩, hf⟩
    · rintro hall f ⟨owner, ⟨howner, hlinks⟩, hf⟩
      exact hall owner howner hlinks f hf
  -- enumerations always have a component, whatever their superclasses and fields are
  simp only [result_componentOf_eq_ok hz]
  cases henum : t.isEnum with
  | true => simp
  | false =>
    simp only [Bool.false_eq_true, false_and, false_or, true_and, forall_const]
    constructor
    · rintro ⟨s, ancestry, ha, hfields, -⟩
      refine ⟨fun hback => ?_, (hplain ha).1 hfields⟩
      obtain ⟨fault, hfault⟩ := (result_resolveAncestry_error_iff h ht).2 hback
      rw [ha] at hfault
      cases hfault
    · rintro ⟨hends, hfields⟩
      cases ha : (resolveAncestry scope t).result with
      | error fault => exact absurd ((result_resolveAncestry_error_iff h ht).1 ⟨fault, ha⟩) hends
      | ok ancestry => exact ⟨_, ancestry, rfl, (hplain ha).2 hfields, rfl⟩

/-- Types with distinct simple names that have components are compiled. -/
theorem exists_componentsOf {types : List TypeDescriptor} {owners : Assoc String String}
    {components : Assoc String Schema}
    (hcomponents : ∀ t ∈ types, ∃ s, (componentOf scope hooks t).result = .ok s)
    (hn : (types.map (·.simpleName)).Nodup) (hfresh : ∀ t ∈ types, t.simpleName ∉ owners.keys) :
    ∃ out, (componentsOf scope hooks owners components types).result = .ok out := by
  induction types generalizing owners components with
  | nil => exact ⟨components, rfl⟩
  | cons t rest ih =>
    obtain ⟨⟨s, hs⟩, hrest⟩ := List.forall_mem_cons.1 hcomponents
    obtain ⟨htfresh, hrestfresh⟩ := List.forall_mem_cons.1 hfresh
    obtain ⟨hnew, hn⟩ := List.nodup_cons.1 hn
    rw [componentsOf, Assoc.get?_eq_none_iff.2 htfresh]
    simp only [Traced.result_bind_of_ok hs]
    -- `t` is an owner now, and no later type has its simple name
    refine ih hrest hn fun u hu hmem => ?_
    rcases Assoc.mem_keys_insert.1 hmem with heq | hmem
    · exact hnew (List.mem_map.2 ⟨u, hu, heq⟩)
    · exact hrestfresh u hu hmem

/-- What is accepted once the scope is known: candidates that have components under different names,
and sound handlers whose operations have different places. -/
structure IsAccepted (config : Config) (hooks : Hooks) (graph : TypeGraph) (scope : Scope)
    (matcher : NamespaceMatcher) : Prop where
  components : ∀ t ∈ candidateTypes config hooks graph,
    ∃ s, (componentOf scope hooks t).result = .ok s
  simpleNames : ((candidateTypes config hooks graph).map (·.simpleName)).Nodup
  handlers : ∀ t ∈ handlersOf graph matcher, t.directives.isExcluded = false →
    IsSoundHandler hooks t
  places : (((handlersOf graph matcher).flatMap (handlerOperations scope hooks)).map
    Operation.key).Nodup

/-- A generation goes on in its scope exactly if it accepts what it finds. -/
theorem exists_generateIn_iff {handlers : NamespaceMatcher} :
    (∃ d, (generateIn config hooks graph scope handlers).result = .ok d) ↔
      IsAccepted config hooks graph scope handlers := by
  have hplaces : ∀ components,
      (∃ d, (assemble { info := config.info, components }
        (withIds ((handlersOf graph handlers).flatMap (handlerOperations scope hooks))
          (uniqueIds (((handlersOf graph handlers).flatMap (handlerOperations scope hooks)).map
            (·.id))))).result = .ok d) ↔
        (((handlersOf graph handlers).flatMap (handlerOperations scope hooks)).map
          Operation.key).Nodup := by
    intro components
    rw [exists_assemble_iff (Document.isFiled_of_paths_eq_nil rfl),
      map_key_withIds (length_uniqueIds_ids _)]
    simp [Document.operations]
  constructor
  · rintro ⟨d, hd⟩
    have hadded := componentsAdded_of_generateIn hd
    obtain ⟨components, operations, -, ho, hassemble⟩ := result_generateIn_eq_ok.1 hd
    obtain ⟨hsound, rfl⟩ := (result_allOperations_eq_ok _).1 ho
    refine ⟨?_, hadded.nodup_simpleNames, hsound, (hplaces components).1 ⟨d, hassemble⟩⟩
    intro t ht
    obtain ⟨s, hs, -⟩ := hadded.component t ht
    exact ⟨s, hs⟩
  · intro h
    obtain ⟨components, hc⟩ : ∃ components,
        (componentsOf scope hooks [] [] (candidateTypes config hooks graph)).result =
          .ok components := exists_componentsOf h.components h.simpleNames (by simp)
    have ho : (allOperations scope hooks (handlersOf graph handlers)).result = .ok _ :=
      (result_allOperations_eq_ok _).2 ⟨h.handlers, rfl⟩
    obtain ⟨d, hd⟩ := (hplaces components).2 h.places
    exact ⟨d, result_generateIn_eq_ok.2 ⟨components, _, hc, ho, hd⟩⟩

/-- All declarations of a graph and its configuration are sound. -/
structure IsSound (config : Config) (hooks : Hooks) (graph : TypeGraph) : Prop where
  patterns : ∀ text ∈ config.modelNamespaces ++ config.handlerNamespaces, IsSoundPattern text
  bases : ∀ t ∈ candidateTypes config hooks graph, ∀ property subtypes,
    t.directives.polymorphic? = some (property, subtypes) →
      IsWellFormed graph ((candidateTypes config hooks graph).map (·.name)) property subtypes
  simpleNames : ((candidateTypes config hooks graph).map (·.simpleName)).Nodup
  classes : ∀ t ∈ candidateTypes config hooks graph, t.isEnum = false →
    IsSoundClass config hooks graph t
  handlers : ∀ t ∈ graph.types, isIncludedHandler config t = true → IsSoundHandler hooks t
  places : PlacesDiffer config hooks graph

/-- The handlers that are looked at are those that are part of the document. -/
theorem sound_handlers_iff {handlers : NamespaceMatcher}
    (hh : NamespaceMatcher.ofTexts config.handlerNamespaces = .ok handlers) :
    (∀ t ∈ handlersOf graph handlers, t.directives.isExcluded = false → IsSoundHandler hooks t) ↔
      ∀ t ∈ graph.types, isIncludedHandler config t = true → IsSoundHandler hooks t := by
  simp only [handlersOf, List.mem_filter, isIncludedHandler, inNamespaces_eq hh,
    Bool.and_eq_true, Bool.not_eq_true', and_imp]

theorem isSound_of_generate (hz : hooks.interceptorCount = 0) {d : Document}
    (hg : (generate config hooks graph).result = .ok d) : IsSound config hooks graph := by
  obtain ⟨bases, scope, handlers, h, hh, hd⟩ := result_generate_eq_ok.1 hg
  have haccepted := exists_generateIn_iff.1 ⟨d, hd⟩
  refine ⟨?_, h.bases_eq_declared.1, haccepted.simpleNames, ?_,
    (sound_handlers_iff hh).1 haccepted.handlers,
    (nodup_keys_iff_placesDiffer hz hh).1 haccepted.places⟩
  · rw [List.forall_mem_append]
    exact ⟨exists_ofTexts_iff.1 ⟨_, h.namespaces_eq⟩, exists_ofTexts_iff.1 ⟨_, hh⟩⟩
  · intro t ht
    exact (exists_componentOf_iff hz h (mem_types_of_mem_candidateTypes ht)).1
      (haccepted.components t ht)

theorem exists_generate_of_isSound (hz : hooks.interceptorCount = 0)
    (hs : IsSound config hooks graph) : ∃ d, (generate config hooks graph).result = .ok d := by
  obtain ⟨hmodels, hhandlers⟩ := List.forall_mem_append.1 hs.patterns
  obtain ⟨models, hm⟩ := exists_ofTexts_iff.2 hmodels
  obtain ⟨handlers, hh⟩ := exists_ofTexts_iff.2 hhandlers
  obtain ⟨bases, hb⟩ : ∃ bases,
      (resolvePolymorphism graph (candidateTypes config hooks graph)).result = .ok bases :=
    ⟨_, (result_resolvePolymorphism_eq_ok nodup_names_candidateTypes).2 ⟨hs.bases, rfl⟩⟩
  obtain ⟨scope, h⟩ : ∃ scope, IsScopeOf config hooks graph bases scope :=
    ⟨_, isScopeOf_generationScope hm hb⟩
  have haccepted : IsAccepted config hooks graph scope handlers := by
    refine ⟨?_, hs.simpleNames, (sound_handlers_iff hh).2 hs.handlers,
      (nodup_keys_iff_placesDiffer hz hh).2 hs.places⟩
    intro t ht
    exact (exists_componentOf_iff hz h (mem_types_of_mem_candidateTypes ht)).2 (hs.classes t ht)
  obtain ⟨d, hd⟩ := exists_generateIn_iff.2 haccepted
  exact ⟨d, result_generate_eq_ok.2 ⟨bases, scope, handlers, h, hh, hd⟩⟩

/-- A document is generated exactly if all declarations are sound. -/
theorem exists_generate_iff (hz : hooks.interceptorCount = 0) :
    (∃ d, (generate config hooks graph).result = .ok d) ↔ IsSound config hooks graph :=
  ⟨fun ⟨_, hg⟩ => isSound_of_generate hz hg, exists_generate_of_isSound hz⟩

/-! ## Faults -/

theorem nodup_candidateTypes : (candidateTypes config hooks graph).Nodup :=
  nodup_names_candidateTypes.of_map

theorem not_isSound_of_isFaulty (h : IsFaulty config hooks graph) :
    ¬ IsSound config hooks graph := by
  intro hs
  cases h with
  | pattern text ht segment hsegment h => exact hs.patterns text ht segment hsegment h
  | base t ht property subtypes hp h =>
    exact isFaultyBase_iff.1 h (hs.bases t ht property subtypes hp)
  | simpleName t u ht hu hne h => exact hne (List.inj_on_of_nodup_map hs.simpleNames ht hu h)
  | superclasses t ht h => exact (hs.classes t ht h.1).ends h.2
  | field t ht henum owner howner hlinks f hf hskipped h =>
    exact isFaultyClass_iff.1 (.field owner howner hlinks f hf hskipped h) (hs.classes t ht henum)
  | handler t ht hi h => exact isFaultyHandler_iff.1 h (hs.handlers t ht hi)
  | place p q hne place hp hq => exact hne (hs.places p q place hp hq)

theorem isSoundClass_of_not_isFaulty (h : ¬ IsFaulty config hooks graph) {t : TypeDescriptor}
    (ht : t ∈ candidateTypes config hooks graph) (henum : t.isEnum = false) :
    IsSoundClass config hooks graph t := by
  by_contra hsound
  cases isFaultyClass_iff.2 hsound with
  | superclasses hback => exact h (.superclasses t ht ⟨henum, hback⟩)
  | field owner howner hlinks f hf hskipped hn =>
    exact h (.field t ht henum owner howner hlinks f hf hskipped hn)

theorem isSound_of_not_isFaulty (h : ¬ IsFaulty config hooks graph) :
    IsSound config hooks graph where
  patterns := fun text ht segment hsegment hf => h (.pattern text ht segment hsegment hf)
  bases := fun t ht property subtypes hp => by
    by_contra hb
    exact h (.base t ht property subtypes hp (isFaultyBase_iff.2 hb))
  simpleNames := by
    refine nodup_candidateTypes.map_on fun t ht u hu heq => ?_
    by_contra hne
    exact h (.simpleName t u ht hu hne heq)
  classes := fun t ht henum => isSoundClass_of_not_isFaulty h ht henum
  handlers := fun t ht hi => by
    by_contra hb
    exact h (.handler t ht hi (isFaultyHandler_iff.2 hb))
  places := fun p q place hp hq => by
    by_contra hne
    exact h (.place p q hne place hp hq)

theorem isFaulty_iff : IsFaulty config hooks graph ↔ ¬ IsSound config hooks graph :=
  ⟨not_isSound_of_isFaulty, fun h => by_contra fun hf => h (isSound_of_not_isFaulty hf)⟩

/-- Generation fails exactly on faulty declarations, if there are only filters. -/
theorem generate_fails_iff (config : Config) (hooks : Hooks) (graph : TypeGraph)
    (hz : hooks.interceptorCount = 0) :
    (∃ fault, (generate config hooks graph).result = .error fault) ↔
      IsFaulty config hooks graph := by
  rw [isFaulty_iff, ← exists_generate_iff hz]
  cases (generate config hooks graph).result with
  | error fault => simp
  | ok d => simp

/-- The configuration of a depot with two namespaces. -/
def depotConfig : Config := { modelNamespaces := ["depot.road", "depot.rail"] }

/-- Two classes with one simple name. -/
def wagonsGraph : TypeGraph where
  types := [{ name := "depot.road.Wagon" }, { name := "depot.rail.Wagon" }]
  nodup_names := by decide +kernel

theorem generate_fails_iff_wagons :
    Hooks.none.interceptorCount = 0 ∧
    (∃ fault, (generate depotConfig Hooks.none wagonsGraph).result = .error fault) ∧
    ¬ IsFaulty libraryConfig Hooks.none loansGraph := by
  refine ⟨rfl, (generate_fails_iff depotConfig Hooks.none wagonsGraph rfl).2 ?_, fun hfaulty => ?_⟩
  · exact .simpleName { name := "depot.road.Wagon" } { name := "depot.rail.Wagon" }
      (by decide +kernel) (by decide +kernel) (by decide) (by decide +kernel)
  · obtain ⟨d, hd⟩ := exists_eq_ok_of_toBool
      (show (generate libraryConfig Hooks.none loansGraph).result.toBool = true by decide +kernel)
    obtain ⟨fault, hfault⟩ :=
      (generate_fails_iff libraryConfig Hooks.none loansGraph rfl).2 hfaulty
    rw [hd] at hfault
    cases hfault

end ApiContract
