import ApiContract.Proofs.Bases
import ApiContract.Proofs.ClassObject
/-!
# Generations, stage by stage

What a generation that succeeds consists of, and where the fault of one that fails comes from.

* `result_componentsOf_eq_ok` : there is one component for each type, under its simple name, and no
  two types share one.
* `result_assemble_eq_ok` : assembling keeps the components, and every operation of the document is
  one of those assembled.
* `result_generate` : a generation makes a scope and goes on in it, by `generateIn`.
* `result_generate_eq_ok`, `result_generate_error` : the stages of a success and of a failure.
-/

namespace ApiContract

variable {config : Config} {hooks : Hooks} {graph : TypeGraph} {bases : PolymorphismMap}
  {scope : Scope}

/-! ## Namespaces -/

theorem exists_of_mapM_error {α β ε : Type} {f : α → Except ε β} {xs : List α} {e : ε}
    (h : xs.mapM f = .error e) : ∃ x ∈ xs, f x = .error e := by
  induction xs with
  | nil => cases h
  | cons x rest ih =>
    rw [List.mapM_cons] at h
    cases hx : f x with
    | error e' =>
      rw [hx] at h
      obtain rfl : e' = e := Except.error.inj h
      exact ⟨x, List.mem_cons_self .., hx⟩
    | ok y =>
      rw [hx] at h
      cases hrest : rest.mapM f with
      | error e' =>
        rw [hrest] at h
        obtain rfl : e' = e := Except.error.inj h
        obtain ⟨x', hx', he⟩ := ih hrest
        exact ⟨x', List.mem_cons_of_mem _ hx', he⟩
      | ok ys =>
        rw [hrest] at h
        cases h

theorem parseSegment_error {text : String} {segment : List Char} {problem : ConfigurationProblem}
    (h : NamespacePattern.parseSegment text segment = .error problem) :
    problem = .emptySegment text ∨ problem = .partialWildcard text := by
  rw [NamespacePattern.parseSegment] at h
  split at h
  · cases h
  · split at h
    · cases h
    · split at h
      · exact Or.inl (Except.error.inj h).symm
      · split at h
        · exact Or.inr (Except.error.inj h).symm
        · cases h

/-- Patterns are only refused for a segment that is empty or holds a wildcard besides other
characters. -/
theorem ofTexts_error {texts : List String} {fault : Fault}
    (h : NamespaceMatcher.ofTexts texts = .error fault) : fault.IsOtherConfiguration := by
  rw [NamespaceMatcher.ofTexts] at h
  cases hp : texts.mapM NamespacePattern.parse with
  | ok patterns =>
    rw [hp] at h
    cases h
  | error problem =>
    rw [hp] at h
    obtain ⟨text, -, hparse⟩ := exists_of_mapM_error hp
    rw [NamespacePattern.parse] at hparse
    cases hs : (Text.splitOn '.' (Text.trim text.toList)).mapM
        (NamespacePattern.parseSegment text) with
    | ok segments =>
      rw [hs] at hparse
      cases hparse
    | error problem' =>
      rw [hs] at hparse
      obtain rfl : problem' = problem := Except.error.inj hparse
      obtain ⟨segment, -, hsegment⟩ := exists_of_mapM_error hs
      refine ⟨_, (Except.error.inj h).symm, ?_⟩
      rcases parseSegment_error hsegment with rfl | rfl
      · exact nofun
      · exact nofun

/-! ## Components -/

/-- What `componentsOf` adds: the components of some types, each under the simple name of its type,
which no other type has. -/
structure ComponentsAdded (scope : Scope) (hooks : Hooks) (owners : List String)
    (components : Assoc String Schema) (types : List TypeDescriptor)
    (out : Assoc String Schema) : Prop where
  nodup_simpleNames : (types.map (·.simpleName)).Nodup
  fresh : ∀ t ∈ types, t.simpleName ∉ owners
  keys_perm : out.keys.Perm (components.keys ++ types.map (·.simpleName))
  component : ∀ t ∈ types, ∃ s, (componentOf scope hooks t).result = .ok s ∧
    out.get? t.simpleName = some s
  other : ∀ k, k ∉ types.map (·.simpleName) → out.get? k = components.get? k

theorem result_componentsOf_eq_ok {owners : Assoc String String}
    {components out : Assoc String Schema} {types : List TypeDescriptor}
    (hknown : ∀ k ∈ components.keys, k ∈ owners.keys)
    (h : (componentsOf scope hooks owners components types).result = .ok out) :
    ComponentsAdded scope hooks owners.keys components types out := by
  induction types generalizing owners components with
  | nil =>
    obtain rfl := Except.ok.inj h
    exact ⟨List.nodup_nil, by simp, by simp, by simp, fun _ _ => rfl⟩
  | cons t rest ih =>
    rw [componentsOf] at h
    split at h
    · cases h
    next hfree =>
    obtain ⟨s, hs, h⟩ := Traced.result_bind_eq_ok.1 h
    have hnew : t.simpleName ∉ owners.keys := Assoc.get?_eq_none_iff.1 hfree
    have hnew' : t.simpleName ∉ components.keys := fun hk => hnew (hknown _ hk)
    have hkeys := Assoc.keys_insertSorted_perm hnew' s
    have hknown' : ∀ k ∈ (components.insertSorted t.simpleName s).keys,
        k ∈ (owners.insert t.simpleName t.name).keys := by
      intro k hk
      rw [Assoc.mem_keys_insert]
      rcases List.mem_cons.1 (hkeys.mem_iff.1 hk) with hk | hk
      · exact Or.inl hk
      · exact Or.inr (hknown k hk)
    obtain ⟨hnodup, hfresh, hperm, hcomponent, hother⟩ := ih hknown' h
    -- later types have other simple names, since they do not meet an owner
    have hlater : t.simpleName ∉ rest.map (·.simpleName) := by
      intro hmem
      obtain ⟨u, hu, hname⟩ := List.mem_map.1 hmem
      exact hfresh u hu (Assoc.mem_keys_insert.2 (Or.inl hname))
    refine ⟨List.nodup_cons.2 ⟨hlater, hnodup⟩, ?_, ?_, ?_, ?_⟩
    · intro u hu
      rcases List.mem_cons.1 hu with rfl | hu
      · exact hnew
      · exact fun hk => hfresh u hu (Assoc.mem_keys_insert.2 (Or.inr hk))
    · refine hperm.trans ((hkeys.append_right _).trans ?_)
      rw [List.map_cons, List.cons_append]
      exact List.perm_middle.symm
    · intro u hu
      rcases List.mem_cons.1 hu with rfl | hu
      · refine ⟨s, hs, ?_⟩
        rw [hother _ hlater, Assoc.get?_insertSorted, if_pos rfl]
      · exact hcomponent u hu
    · intro k hk
      rw [List.map_cons, List.mem_cons, not_or] at hk
      rw [hother k hk.2, Assoc.get?_insertSorted, if_neg (Ne.symm hk.1)]

/-- Every component that is added to none is that of a type. -/
theorem ComponentsAdded.exists_type {types : List TypeDescriptor} {out : Assoc String Schema}
    (h : ComponentsAdded scope hooks [] [] types out) {key : String} {s : Schema}
    (hs : (key, s) ∈ out) :
    ∃ t ∈ types, t.simpleName = key ∧ (componentOf scope hooks t).result = .ok s := by
  have hkeys : out.keys.Perm (types.map (·.simpleName)) := by simpa using h.keys_perm
  obtain ⟨t, ht, rfl⟩ := List.mem_map.1 (hkeys.mem_iff.1 (Assoc.mem_keys_of_mem hs))
  obtain ⟨s', hs', hget⟩ := h.component t ht
  have hnodup : out.keys.Nodup := hkeys.nodup_iff.2 h.nodup_simpleNames
  obtain rfl : s = s' := Option.some.inj ((Assoc.get?_of_mem hnodup hs).symm.trans hget)
  exact ⟨t, ht, rfl, hs'⟩

/-- Under a name two tables hold the same component, if they are made from the same type of that
name and it has the same component in both. -/
theorem ComponentsAdded.get?_eq {scope' : Scope} {hooks' : Hooks}
    {types types' : List TypeDescriptor} {out out' : Assoc String Schema} (h : ComponentsAdded scope hooks [] [] types out)
    (h' : ComponentsAdded scope' hooks' [] [] types' out') {name : String}
    (htypes : ∀ t, t.simpleName = name → (t ∈ types ↔ t ∈ types'))
    (hsame : ∀ t ∈ types, ∀ s, (componentOf scope hooks t).result = .ok s →
      (componentOf scope' hooks' t).result = .ok s) : out.get? name = out'.get? name := by
  by_cases hmem : name ∈ types.map (·.simpleName)
  · obtain ⟨t, ht, rfl⟩ := List.mem_map.1 hmem
    obtain ⟨s, hs, hget⟩ := h.component t ht
    obtain ⟨s', hs', hget'⟩ := h'.component t ((htypes t rfl).1 ht)
    rw [hget, hget', Except.ok.inj (hs'.symm.trans (hsame t ht s hs))]
  · have hmem' : name ∉ types'.map (·.simpleName) := by
      intro hin
      obtain ⟨t, ht, rfl⟩ := List.mem_map.1 hin
      exact hmem (List.mem_map_of_mem ((htypes t rfl).2 ht))
    rw [h.other name hmem, h'.other name hmem']

/-- Components fail for two types with one simple name, or for the first type whose component
fails. -/
theorem result_componentsOf_error {owners : Assoc String String}
    {components : Assoc String Schema} {types : List TypeDescriptor} {fault : Fault}
    (h : (componentsOf scope hooks owners components types).result = .error fault) :
    fault.IsOtherConfiguration ∨
      ∃ before t after, types = before ++ t :: after ∧
        (∀ u ∈ before, ∃ s, (componentOf scope hooks u).result = .ok s) ∧
        (componentOf scope hooks t).result = .error fault := by
  induction types generalizing owners components with
  | nil => cases h
  | cons t rest ih =>
    rw [componentsOf] at h
    split at h
    · exact Or.inl ⟨_, (Except.error.inj h).symm, nofun⟩
    · rcases Traced.result_bind_eq_error.1 h with h | ⟨s, hs, h⟩
      · exact Or.inr ⟨[], t, rest, rfl, nofun, h⟩
      · rcases ih h with h | ⟨before, u, after, rfl, hbefore, h⟩
        · exact Or.inl h
        · exact Or.inr ⟨t :: before, u, after, rfl,
            List.forall_mem_cons.2 ⟨⟨s, hs⟩, hbefore⟩, h⟩

/-! ## Operations -/

theorem mem_withIds {operations : List Operation} {ids : List String} {o : Operation}
    (h : o ∈ withIds operations ids) : ∃ o' ∈ operations, ∃ id, o = { o' with id } := by
  rw [withIds, List.mem_iff_getElem] at h
  obtain ⟨i, hi, rfl⟩ := h
  rw [List.length_zipWith] at hi
  rw [List.getElem_zipWith]
  exact ⟨_, List.getElem_mem (by omega), _, rfl⟩

theorem mem_operations {d : Document} {o : Operation} :
    o ∈ d.operations ↔
      ∃ path operations verb, (path, operations) ∈ d.paths ∧ (verb, o) ∈ operations := by
  simp only [Document.operations, List.mem_flatMap, Assoc.mem_values_iff]
  constructor
  · rintro ⟨operations, ⟨path, hp⟩, verb, hv⟩
    exact ⟨path, operations, verb, hp, hv⟩
  · rintro ⟨path, operations, verb, hp, hv⟩
    exact ⟨operations, ⟨path, hp⟩, verb, hv⟩

theorem mem_operations_insertOperation {d : Document} {o o' : Operation}
    (h : o' ∈ (d.insertOperation o).operations) : o' = o ∨ o' ∈ d.operations := by
  obtain ⟨path, operations, verb, hp, hv⟩ := mem_operations.1 h
  rcases Assoc.mem_of_mem_insertSorted hp with heq | hp
  · obtain ⟨rfl, rfl⟩ := Prod.mk.inj heq
    rcases Assoc.mem_of_mem_insertSorted hv with heq | hv
    · exact Or.inl (Prod.mk.inj heq).2
    · cases hknown : d.paths.get? o.path with
      | none =>
        rw [hknown] at hv
        cases hv
      | some known =>
        rw [hknown] at hv
        exact Or.inr (mem_operations.2 ⟨_, known, verb, Assoc.mem_of_get? hknown, hv⟩)
  · exact Or.inr (mem_operations.2 ⟨path, operations, verb, hp, hv⟩)

/-- Assembling keeps the components, and adds no operations but those that are assembled. -/
theorem result_assemble_eq_ok {d d' : Document} {operations : List Operation}
    (h : (assemble d operations).result = .ok d') :
    d'.components = d.components ∧ ∀ o ∈ d'.operations, o ∈ d.operations ∨ o ∈ operations := by
  induction operations generalizing d with
  | nil =>
    obtain rfl := Except.ok.inj h
    exact ⟨rfl, fun o ho => Or.inl ho⟩
  | cons o rest ih =>
    rw [assemble] at h
    split at h
    · cases h
    · obtain ⟨hcomponents, hoperations⟩ := ih h
      refine ⟨hcomponents, fun o' ho' => ?_⟩
      rcases hoperations o' ho' with ho' | ho'
      · rcases mem_operations_insertOperation ho' with rfl | ho'
        · exact Or.inr (List.mem_cons_self ..)
        · exact Or.inl ho'
      · exact Or.inr (List.mem_cons_of_mem _ ho')

theorem result_assemble_error {d : Document} {operations : List Operation} {fault : Fault}
    (h : (assemble d operations).result = .error fault) : fault.IsOtherConfiguration := by
  induction operations generalizing d with
  | nil => cases h
  | cons o rest ih =>
    rw [assemble] at h
    split at h
    · exact ⟨_, (Except.error.inj h).symm, nofun⟩
    · exact ih h

theorem result_reportRenamed (olds news : List String) :
    (reportRenamed olds news).result = .ok () := by
  induction olds generalizing news with
  | nil => rfl
  | cons before olds ih =>
    cases news with
    | nil => rfl
    | cons after news =>
      rw [reportRenamed]
      split
      · rw [Traced.result_report_bind]
        exact ih news
      · exact ih news

theorem result_renameOperations (operations : List Operation) :
    (renameOperations operations).result =
      .ok (withIds operations (uniqueIds (operations.map (·.id)))) := by
  rw [renameOperations, Traced.result_bind_of_ok (result_reportRenamed _ _)]
  rfl

theorem result_reportDangling (refs : List DanglingReference) :
    (reportDangling refs).result = .ok () := by
  induction refs with
  | nil => rfl
  | cons r rest ih => rw [reportDangling, Traced.result_report_bind, ih]

/-! ## The stages of a generation -/

/-- The scope that a generation makes for its graph. -/
def generationScope (config : Config) (hooks : Hooks) (graph : TypeGraph)
    (models : NamespaceMatcher) (bases : PolymorphismMap) : Scope where
  graph := graph
  namespaces := models
  polymorphism := some bases
  components := some ((candidateTypes config hooks graph).map (·.name))
  rootTypes := config.rootTypes

theorem isScopeOf_generationScope {models : NamespaceMatcher}
    (hm : NamespaceMatcher.ofTexts config.modelNamespaces = .ok models)
    (hb : (resolvePolymorphism graph (candidateTypes config hooks graph)).result = .ok bases) :
    IsScopeOf config hooks graph bases (generationScope config hooks graph models bases) :=
  ⟨rfl, hm, (result_polymorphicBases hm).trans hb, rfl, rfl, rfl⟩

/-- What a generation does once its scope is known. -/
def generateIn (config : Config) (hooks : Hooks) (graph : TypeGraph) (scope : Scope)
    (handlers : NamespaceMatcher) : Traced Document := do
  let components ← componentsOf scope hooks [] [] (candidateTypes config hooks graph)
  let operations ← allOperations scope hooks (handlersOf graph handlers)
  let operations ← renameOperations operations
  let document ← assemble { info := config.info, components } operations
  reportDangling document.danglingReferences
  pure document

/-- A generation reads the patterns, resolves the bases, and goes on in the scope of both. -/
theorem result_generate (config : Config) (hooks : Hooks) (graph : TypeGraph) :
    (generate config hooks graph).result =
      (NamespaceMatcher.ofTexts config.modelNamespaces).bind fun models =>
        (NamespaceMatcher.ofTexts config.handlerNamespaces).bind fun handlers =>
          (resolvePolymorphism graph (candidateTypes config hooks graph)).result.bind fun bases =>
            (generateIn config hooks graph (generationScope config hooks graph models bases)
              handlers).result := by
  rw [generate, Traced.result_bind, Traced.result_lift]
  cases hm : NamespaceMatcher.ofTexts config.modelNamespaces with
  | error fault => rfl
  | ok models =>
    simp only [Except.bind]
    rw [Traced.result_bind, Traced.result_lift]
    cases NamespaceMatcher.ofTexts config.handlerNamespaces with
    | error fault => rfl
    | ok handlers =>
      simp only [Except.bind]
      rw [Traced.result_bind_of_ok (result_candidates hm graph.types), Traced.result_bind]
      congr 1

theorem result_generateIn_eq_ok {handlers : NamespaceMatcher} {d : Document} :
    (generateIn config hooks graph scope handlers).result = .ok d ↔
      ∃ components operations,
        (componentsOf scope hooks [] [] (candidateTypes config hooks graph)).result =
          .ok components ∧
        (allOperations scope hooks (handlersOf graph handlers)).result = .ok operations ∧
        (assemble { info := config.info, components }
          (withIds operations (uniqueIds (operations.map (·.id))))).result = .ok d := by
  simp only [generateIn, Traced.result_bind_eq_ok, result_renameOperations, Except.ok.injEq,
    exists_eq_left']
  constructor
  · rintro ⟨components, hc, operations, ho, d', hd, u, -, h⟩
    obtain rfl := Except.ok.inj h
    exact ⟨components, operations, hc, ho, hd⟩
  · rintro ⟨components, operations, hc, ho, hd⟩
    exact ⟨components, hc, operations, ho, d, hd, (), result_reportDangling _, rfl⟩

theorem result_generateIn_error {handlers : NamespaceMatcher} {fault : Fault}
    (h : (generateIn config hooks graph scope handlers).result = .error fault) :
    (componentsOf scope hooks [] [] (candidateTypes config hooks graph)).result = .error fault ∨
      (∃ components, (componentsOf scope hooks [] [] (candidateTypes config hooks graph)).result =
          .ok components ∧
        ((allOperations scope hooks (handlersOf graph handlers)).result = .error fault ∨
          fault.IsOtherConfiguration)) := by
  rcases Traced.result_bind_eq_error.1 h with h | ⟨components, hc, h⟩
  · exact Or.inl h
  refine Or.inr ⟨components, hc, ?_⟩
  rcases Traced.result_bind_eq_error.1 h with h | ⟨operations, -, h⟩
  · exact Or.inl h
  rw [Traced.result_bind_of_ok (result_renameOperations operations)] at h
  rcases Traced.result_bind_eq_error.1 h with h | ⟨d, -, h⟩
  · exact Or.inr (result_assemble_error h)
  · rw [Traced.result_bind_of_ok (result_reportDangling _)] at h
    cases h

/-- The stages of a generation that succeeds. -/
theorem result_generate_eq_ok {d : Document} :
    (generate config hooks graph).result = .ok d ↔
      ∃ bases scope handlers, IsScopeOf config hooks graph bases scope ∧
        NamespaceMatcher.ofTexts config.handlerNamespaces = .ok handlers ∧
        (generateIn config hooks graph scope handlers).result = .ok d := by
  rw [result_generate]
  simp only [exceptBind_eq_ok]
  constructor
  · rintro ⟨models, hm, handlers, hh, bases, hb, h⟩
    exact ⟨bases, _, handlers, isScopeOf_generationScope hm hb, hh, h⟩
  · rintro ⟨bases, scope, handlers, hscope, hh, h⟩
    have hb := hscope.bases_eq
    rw [result_polymorphicBases hscope.namespaces_eq] at hb
    rw [hscope.unique (isScopeOf_generationScope hscope.namespaces_eq hb)] at h
    exact ⟨_, hscope.namespaces_eq, handlers, hh, bases, hb, h⟩

/-- A generation that fails has malformed patterns or declarations of bases, or fails in its
scope. -/
theorem result_generate_error {fault : Fault}
    (h : (generate config hooks graph).result = .error fault) :
    fault.IsOtherConfiguration ∨
      ∃ bases scope handlers, IsScopeOf config hooks graph bases scope ∧
        (generateIn config hooks graph scope handlers).result = .error fault := by
  rw [result_generate] at h
  rcases exceptBind_eq_error.1 h with hm | ⟨models, hm, h⟩
  · exact Or.inl (ofTexts_error hm)
  rcases exceptBind_eq_error.1 h with hh | ⟨handlers, -, h⟩
  · exact Or.inl (ofTexts_error hh)
  rcases exceptBind_eq_error.1 h with hb | ⟨bases, hb, h⟩
  · exact Or.inl (result_resolvePolymorphism_error hb)
  · exact Or.inr ⟨bases, _, handlers, isScopeOf_generationScope hm hb, h⟩

/-- The components of a document are those of the candidates. -/
theorem componentsAdded_of_generateIn {handlers : NamespaceMatcher} {d : Document}
    (h : (generateIn config hooks graph scope handlers).result = .ok d) :
    ComponentsAdded scope hooks [] [] (candidateTypes config hooks graph) d.components := by
  obtain ⟨components, operations, hc, -, hd⟩ := result_generateIn_eq_ok.1 h
  rw [(result_assemble_eq_ok hd).1]
  exact result_componentsOf_eq_ok (by simp) hc

end ApiContract
