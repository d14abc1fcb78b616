import ApiContract.Proofs.Compositions
import ApiContract.Proofs.OperationSources
/-!
# Cycles of superclasses

A class looks for its superclasses up to the nearest candidate. So a chain that comes back is refused
if it does so before it meets another candidate, and is accepted if each class on it meets the next
one first: then the components refer to each other in a circle.

* `Recurs` : a class whose chain comes back before it meets another candidate.
* `transGen_composes_iff` : the circles of components are the circles of classes.
* `superclass_cycles` : what is refused, what a refusal says, and what is accepted.
-/

namespace ApiContract

open Relation

/-- The chain of a class comes back before it meets a candidate other than the class. -/
def Recurs (config : Config) (hooks : Hooks) (graph : TypeGraph) (t : TypeDescriptor) : Prop :=
  t.isEnum = false ∧ ComesBack (IsOwnLink config hooks graph t.name) t.name

/-- A name is not that of a candidate enumeration. -/
def IsNoEnumeration (config : Config) (hooks : Hooks) (graph : TypeGraph) (name : String) : Prop :=
  ∀ t ∈ candidateTypes config hooks graph, t.name = name → t.isEnum = false

/-- A link that no candidate enumeration leaves. -/
def IsClassLink (config : Config) (hooks : Hooks) (graph : TypeGraph) (a b : String) : Prop :=
  IsSuperclass config graph a b ∧ IsNoEnumeration config hooks graph a

variable {config : Config} {hooks : Hooks} {graph : TypeGraph} {bases : PolymorphismMap}
  {scope : Scope} {d : Document}

/-! ## Refusals -/

/-- A class that recurs has no component, and the fault is that of its superclasses. -/
theorem result_componentOf_of_recurs (h : IsScopeOf config hooks graph bases scope)
    {t : TypeDescriptor} (ht : t ∈ candidateTypes config hooks graph)
    (hr : Recurs config hooks graph t) :
    ∃ problem, (componentOf scope hooks t).result = .error (.configuration problem) := by
  have hmem := mem_types_of_mem_candidateTypes ht
  obtain ⟨fault, hfault⟩ := (result_resolveAncestry_error_iff h hmem).2 hr.2
  obtain ⟨b, rfl, -⟩ := result_resolveAncestry_error h hmem hfault
  refine ⟨.superclassCycle b t.name, ?_⟩
  rw [result_componentOf, if_neg (by rw [hr.1]; decide), classSchema,
    Traced.result_bind_of_error hfault]
  rfl

/-- A fault of the configuration, or of a field of a candidate that is declared before all
candidates that recur. -/
def IsConfigurationOrEarlierField (config : Config) (hooks : Hooks) (graph : TypeGraph)
    (fault : Fault) : Prop :=
  (∃ problem, fault = .configuration problem) ∨
    ∃ before t after, candidateTypes config hooks graph = before ++ t :: after ∧
      (∀ u ∈ t :: before, ¬ Recurs config hooks graph u) ∧
      ∃ owner field u, fault = .unsupportedShape (.inField owner field (.nestedContainers u))

theorem fault_of_componentsOf (h : IsScopeOf config hooks graph bases scope) {fault : Fault}
    (hf : (componentsOf scope hooks [] [] (candidateTypes config hooks graph)).result =
      .error fault) : IsConfigurationOrEarlierField config hooks graph fault := by
  rcases result_componentsOf_error hf with ⟨problem, rfl, -⟩ | ⟨before, t, after, heq, hbefore, hf⟩
  · exact Or.inl ⟨problem, rfl⟩
  have hmem : ∀ u ∈ t :: before, u ∈ candidateTypes config hooks graph := by
    intro u hu
    rw [heq]
    rcases List.mem_cons.1 hu with rfl | hu
    · exact List.mem_append_right _ (List.mem_cons_self ..)
    · exact List.mem_append_left _ hu
  rcases result_componentOf_error hf with ⟨-, ha⟩ | ⟨owner, field, type, rfl⟩
  · obtain ⟨b, rfl, -⟩ := result_resolveAncestry_error h
      (mem_types_of_mem_candidateTypes (hmem t (List.mem_cons_self ..))) ha
    exact Or.inl ⟨_, rfl⟩
  · refine Or.inr ⟨before, t, after, heq, fun u hu hr => ?_, owner, field, type, rfl⟩
    obtain ⟨problem, hproblem⟩ := result_componentOf_of_recurs h (hmem u hu) hr
    rcases List.mem_cons.1 hu with rfl | hu
    · rw [hf] at hproblem
      cases hproblem
    · obtain ⟨s, hs⟩ := hbefore u hu
      rw [hs] at hproblem
      cases hproblem

/-- No components are made of types one of which recurs. -/
theorem result_componentsOf_of_recurs (h : IsScopeOf config hooks graph bases scope)
    {t : TypeDescriptor} (ht : t ∈ candidateTypes config hooks graph)
    (hr : Recurs config hooks graph t) (components : Assoc String Schema) :
    (componentsOf scope hooks [] [] (candidateTypes config hooks graph)).result ≠
      .ok components := by
  intro hc
  obtain ⟨s, hs, -⟩ := (result_componentsOf_eq_ok (by simp) hc).component t ht
  obtain ⟨problem, hproblem⟩ := result_componentOf_of_recurs h ht hr
  rw [hs] at hproblem
  cases hproblem

theorem result_generate_of_recurs {t : TypeDescriptor}
    (ht : t ∈ candidateTypes config hooks graph) (hr : Recurs config hooks graph t) :
    ∃ fault, (generate config hooks graph).result = .error fault ∧
      IsConfigurationOrEarlierField config hooks graph fault := by
  cases hg : (generate config hooks graph).result with
  | ok d =>
    obtain ⟨bases, scope, handlers, h, -, hd⟩ := result_generate_eq_ok.1 hg
    obtain ⟨components, operations, hc, -⟩ := result_generateIn_eq_ok.1 hd
    exact absurd hc (result_componentsOf_of_recurs h ht hr components)
  | error fault =>
    refine ⟨fault, rfl, ?_⟩
    rcases result_generate_error hg with ⟨problem, rfl, -⟩ | ⟨bases, scope, handlers, h, hf⟩
    · exact Or.inl ⟨problem, rfl⟩
    · rcases result_generateIn_error hf with hf | ⟨components, hc, -⟩
      · exact fault_of_componentsOf h hf
      · exact absurd hc (result_componentsOf_of_recurs h ht hr components)

/-- A cycle that is reported is one. -/
theorem recurs_of_result_generate (hz : hooks.interceptorCount = 0) {through start : String}
    (hg : (generate config hooks graph).result =
      .error (.configuration (.superclassCycle through start))) :
    ∃ t ∈ candidateTypes config hooks graph, t.name = start ∧ t.isEnum = false ∧
      ReflTransGen (IsOwnLink config hooks graph start) start through ∧
      TransGen (IsOwnLink config hooks graph start) through through := by
  have hother : ¬ (Fault.configuration (.superclassCycle through start)).IsOtherConfiguration := by
    rintro ⟨problem, heq, hp⟩
    obtain rfl := Fault.configuration.inj heq
    exact hp through start rfl
  rcases result_generate_error hg with hf | ⟨bases, scope, handlers, h, hf⟩
  · exact absurd hf hother
  rcases result_generateIn_error hf with hf | ⟨components, -, hf | hf⟩
  · rcases result_componentsOf_error hf with hf | ⟨before, t, after, htypes, -, hf⟩
    · exact absurd hf hother
    have ht : t ∈ candidateTypes config hooks graph := by
      rw [htypes]
      exact List.mem_append_right _ (List.mem_cons_self ..)
    rcases result_componentOf_error hf with ⟨henum, ha⟩ | ⟨owner, field, u, heq⟩
    · obtain ⟨b, heq, hfrom, hback⟩ :=
        result_resolveAncestry_error h (mem_types_of_mem_candidateTypes ht) ha
      obtain ⟨rfl, rfl⟩ := ConfigurationProblem.superclassCycle.inj (Fault.configuration.inj heq)
      exact ⟨t, ht, rfl, henum, hfrom, hback⟩
    · cases heq
  · rcases (allOperations_meets hz _).of_error hf with hf | ⟨problem, heq⟩
    · exact absurd hf hother
    · cases heq
  · exact absurd hf hother

/-! ## Circles of components -/

theorem isNoEnumeration_of_not_candidate {a : String}
    (h : ¬ IsCandidateName config hooks graph a) : IsNoEnumeration config hooks graph a :=
  fun t ht hname => absurd ⟨t, ht, hname⟩ h

theorem isNoEnumeration_iff {t : TypeDescriptor} (ht : t ∈ candidateTypes config hooks graph) :
    IsNoEnumeration config hooks graph t.name ↔ t.isEnum = false := by
  constructor
  · exact fun h => h t ht rfl
  · intro h u hu hname
    obtain rfl := TypeGraph.eq_of_name_eq (mem_types_of_mem_candidateTypes hu)
      (mem_types_of_mem_candidateTypes ht) hname
    exact h

/-- Class links lead to the nearest candidate. -/
theorem transGen_isClassLink {a b : String} (h : NearestCandidate config hooks graph a b)
    (ha : IsNoEnumeration config hooks graph a) :
    TransGen (IsClassLink config hooks graph) a b := by
  induction h with
  | here hb _ => exact .single ⟨hb, ha⟩
  | further hb hn _ ih => exact .head ⟨hb, ha⟩ (ih (isNoEnumeration_of_not_candidate hn))

/-- Class links up to a candidate go from candidate to candidate. -/
theorem transGen_nearestCandidate {a b : String} (h : TransGen (IsClassLink config hooks graph) a b)
    (hc : IsCandidateName config hooks graph b) :
    TransGen (fun a b => NearestCandidate config hooks graph a b ∧
      IsNoEnumeration config hooks graph a) a b := by
  induction h using TransGen.head_induction_on with
  | single hb => exact .single ⟨.here hb.1 hc, hb.2⟩
  | @head a m hm _ ih =>
    by_cases hcm : IsCandidateName config hooks graph m
    · exact .head ⟨.here hm.1 hcm, hm.2⟩ ih
    · -- the first step from `m` starts one link earlier
      obtain ⟨p, hp, hrest⟩ := TransGen.head'_iff.1 ih
      exact .head' ⟨.further hm.1 hcm hp.1, hm.2⟩ hrest

theorem transGen_composes_of_nearestCandidate (hz : hooks.interceptorCount = 0)
    (h : IsScopeOf config hooks graph bases scope) {handlers : NamespaceMatcher}
    (hd : (generateIn config hooks graph scope handlers).result = .ok d) {a b : String}
    (hab : TransGen (fun a b => NearestCandidate config hooks graph a b ∧
      IsNoEnumeration config hooks graph a) a b) (ha : IsCandidateName config hooks graph a) :
    TransGen d.Composes (simpleNameOf a) (simpleNameOf b) := by
  have hstep : ∀ {a b}, NearestCandidate config hooks graph a b →
      IsNoEnumeration config hooks graph a → IsCandidateName config hooks graph a →
      d.Composes (simpleNameOf a) (simpleNameOf b) := by
    rintro a b hnear henum ⟨t, ht, rfl⟩
    obtain ⟨p, hp, rfl⟩ := hnear.isCandidateName
    exact (composes_iff hz h hd ht).2 ⟨(isNoEnumeration_iff ht).1 henum, p, hp, rfl, hnear⟩
  induction hab using TransGen.head_induction_on with
  | single hb => exact .single (hstep hb.1 hb.2 ha)
  | head hm _ ih => exact .head (hstep hm.1 hm.2 ha) (ih hm.1.isCandidateName)

theorem exists_transGen_isClassLink (hz : hooks.interceptorCount = 0)
    (h : IsScopeOf config hooks graph bases scope) {handlers : NamespaceMatcher}
    (hd : (generateIn config hooks graph scope handlers).result = .ok d) {a b : String}
    (hab : TransGen d.Composes a b) :
    ∃ t ∈ candidateTypes config hooks graph, t.simpleName = a ∧ t.isEnum = false ∧
      ∃ p ∈ candidateTypes config hooks graph, p.simpleName = b ∧
        TransGen (IsClassLink config hooks graph) t.name p.name := by
  have hadded := componentsAdded_of_generateIn hd
  have hstep : ∀ {a b}, d.Composes a b → ∃ t ∈ candidateTypes config hooks graph,
      t.simpleName = a ∧ t.isEnum = false ∧ ∃ p ∈ candidateTypes config hooks graph,
        p.simpleName = b ∧ TransGen (IsClassLink config hooks graph) t.name p.name := by
    intro a b hc
    have hkey : a ∈ (candidateTypes config hooks graph).map (·.simpleName) := by
      obtain ⟨s, -, hs, -⟩ := hc
      simpa using hadded.keys_perm.mem_iff.1 (Assoc.mem_keys_of_mem (Assoc.mem_of_get? hs))
    obtain ⟨t, ht, rfl⟩ := List.mem_map.1 hkey
    obtain ⟨henum, p, hp, hname, hnear⟩ := (composes_iff hz h hd ht).1 hc
    exact ⟨t, ht, rfl, henum, p, hp, hname,
      transGen_isClassLink hnear ((isNoEnumeration_iff ht).2 henum)⟩
  induction hab with
  | single hc => exact hstep hc
  | tail _ hc ih =>
    obtain ⟨t, ht, hta, henum, p, hp, hpb, htp⟩ := ih
    obtain ⟨p', hp', hpb', -, q, hq, hqc, hpq⟩ := hstep hc
    -- simple names of candidates are distinct, so the second step starts where the first ends
    obtain rfl : p = p' :=
      List.inj_on_of_nodup_map hadded.nodup_simpleNames hp hp' (hpb.trans hpb'.symm)
    exact ⟨t, ht, hta, henum, q, hq, hqc, htp.trans hpq⟩

/-- The components of a document are composed in a circle exactly if class links lead from a
candidate class back to it. -/
theorem transGen_composes_iff (hz : hooks.interceptorCount = 0)
    (h : IsScopeOf config hooks graph bases scope) {handlers : NamespaceMatcher}
    (hd : (generateIn config hooks graph scope handlers).result = .ok d) :
    (∃ a, TransGen d.Composes a a) ↔ ∃ t ∈ candidateTypes config hooks graph,
      t.isEnum = false ∧ TransGen (IsClassLink config hooks graph) t.name t.name := by
  constructor
  · rintro ⟨a, ha⟩
    obtain ⟨t, ht, hta, henum, p, hp, hpa, htp⟩ := exists_transGen_isClassLink hz h hd ha
    obtain rfl : t = p := List.inj_on_of_nodup_map
      (componentsAdded_of_generateIn hd).nodup_simpleNames ht hp (hta.trans hpa.symm)
    exact ⟨t, ht, henum, htp⟩
  · rintro ⟨t, ht, -, hback⟩
    have hc := isCandidateName_of_mem ht
    exact ⟨t.simpleName, transGen_composes_of_nearestCandidate hz h hd
      (transGen_nearestCandidate hback hc) hc⟩

/-! ## What is accepted -/

/-- A chain that comes back and meets no candidate but its class recurs. -/
theorem comesBack_isOwnLink {start : String} (h : ComesBack (IsSuperclass config graph) start)
    (hn : ∀ c, TransGen (IsSuperclass config graph) start c →
      c = start ∨ ¬ IsCandidateName config hooks graph c) :
    ComesBack (IsOwnLink config hooks graph start) start := by
  have hstep : ∀ {a b}, ReflTransGen (IsSuperclass config graph) start a →
      IsSuperclass config graph a b → IsOwnLink config hooks graph start a b :=
    fun ha hb => ⟨hb, hn _ (TransGen.tail' ha hb)⟩
  have hpath : ∀ {a b}, ReflTransGen (IsSuperclass config graph) start a →
      ReflTransGen (IsSuperclass config graph) a b →
      ReflTransGen (IsOwnLink config hooks graph start) a b := by
    intro a b ha hab
    induction hab with
    | refl => exact .refl
    | tail hac hcb ih => exact ih.tail (hstep (ha.trans hac) hcb)
  obtain ⟨b, hab, hbb⟩ := h
  obtain ⟨c, hbc, hcb⟩ := TransGen.head'_iff.1 hbb
  exact ⟨b, hpath .refl hab, .head' (hstep hab hbc) (hpath (hab.tail hbc) hcb)⟩

/-- Generation and cycles of superclasses. A class whose chain comes back before it meets another
candidate is refused, as a fault of the configuration unless an earlier type has a field that is
refused. A cycle that is reported is one. In a document, a chain that comes back has met a candidate other than
its class, and components are composed in a circle exactly if a candidate class comes back to itself
along links that no candidate enumeration leaves. -/
theorem superclass_cycles (config : Config) (hooks : Hooks) (graph : TypeGraph)
    (hz : hooks.interceptorCount = 0) :
    (∀ t ∈ candidateTypes config hooks graph, Recurs config hooks graph t →
      ∃ fault, (generate config hooks graph).result = .error fault ∧
        IsConfigurationOrEarlierField config hooks graph fault) ∧
    (∀ through start, (generate config hooks graph).result =
        .error (.configuration (.superclassCycle through start)) →
      ∃ t ∈ candidateTypes config hooks graph, t.name = start ∧ t.isEnum = false ∧
        ReflTransGen (IsOwnLink config hooks graph start) start through ∧
        TransGen (IsOwnLink config hooks graph start) through through) ∧
    (∀ d, (generate config hooks graph).result = .ok d →
      (∀ t ∈ candidateTypes config hooks graph, t.isEnum = false →
        ComesBack (IsSuperclass config graph) t.name →
        ∃ c ∈ candidateTypes config hooks graph, c.name ≠ t.name ∧
          TransGen (IsSuperclass config graph) t.name c.name) ∧
      ((∃ a, TransGen d.Composes a a) ↔ ∃ t ∈ candidateTypes config hooks graph,
        t.isEnum = false ∧ TransGen (IsClassLink config hooks graph) t.name t.name)) := by
  refine ⟨fun t ht hr => result_generate_of_recurs ht hr,
    fun through start hg => recurs_of_result_generate hz hg, fun d hg => ⟨?_, ?_⟩⟩
  · intro t ht henum hback
    by_contra hnone
    have hn : ∀ c, TransGen (IsSuperclass config graph) t.name c →
        c = t.name ∨ ¬ IsCandidateName config hooks graph c := by
      intro c hc
      by_cases heq : c = t.name
      · exact Or.inl heq
      · refine Or.inr ?_
        rintro ⟨u, hu, rfl⟩
        exact hnone ⟨u, hu, heq, hc⟩
    obtain ⟨fault, hf, -⟩ := result_generate_of_recurs ht ⟨henum, comesBack_isOwnLink hback hn⟩
    rw [hg] at hf
    cases hf
  · obtain ⟨bases, scope, handlers, h, -, hd⟩ := result_generate_eq_ok.1 hg
    exact transGen_composes_iff hz h hd

/-! ## Two circles -/

/-- The configuration of a shop. -/
def shopConfig : Config := { modelNamespaces := ["shop.model"] }

/-- A candidate whose chain meets two types outside the model namespaces that are superclasses of
each other. -/
def outsideGraph : TypeGraph where
  types := [{ name := "shop.model.Loop", superclass := some "lib.A" },
    { name := "lib.A", superclass := some "lib.B" }, { name := "lib.B", superclass := some "lib.A" }]
  nodup_names := by decide +kernel

/-- Two candidates that are superclasses of each other. -/
def mutualGraph : TypeGraph where
  types := [{ name := "shop.model.A", superclass := some "shop.model.B" },
    { name := "shop.model.B", superclass := some "shop.model.A" }]
  nodup_names := by decide +kernel

theorem superclass_cycles_outside :
    Hooks.none.interceptorCount = 0 ∧
      ∃ fault, (generate shopConfig Hooks.none outsideGraph).result = .error fault ∧
        IsConfigurationOrEarlierField shopConfig Hooks.none outsideGraph fault := by
  have hnames : (candidateTypes shopConfig Hooks.none outsideGraph).map (·.name) =
      ["shop.model.Loop"] := by decide +kernel
  have houtside : ∀ name, name ≠ "shop.model.Loop" →
      ¬ IsCandidateName shopConfig Hooks.none outsideGraph name := by
    rintro name hne ⟨t, ht, rfl⟩
    exact hne (by simpa [hnames] using List.mem_map_of_mem (f := (·.name)) ht)
  have hloop : IsSuperclass shopConfig outsideGraph "shop.model.Loop" "lib.A" :=
    ⟨_, List.mem_cons_self .., rfl, rfl, by decide +kernel⟩
  have ha : IsSuperclass shopConfig outsideGraph "lib.A" "lib.B" :=
    ⟨_, List.mem_cons_of_mem _ (List.mem_cons_self ..), rfl, rfl, by decide +kernel⟩
  have hb : IsSuperclass shopConfig outsideGraph "lib.B" "lib.A" :=
    ⟨_, List.mem_cons_of_mem _ (List.mem_cons_of_mem _ (List.mem_cons_self ..)), rfl, rfl,
      by decide +kernel⟩
  have ht : { name := "shop.model.Loop", superclass := some "lib.A" } ∈
      candidateTypes shopConfig Hooks.none outsideGraph :=
    mem_candidateTypes.2 ⟨List.mem_cons_self .., by decide +kernel⟩
  have hlibA := houtside "lib.A" (by decide)
  have hlibB := houtside "lib.B" (by decide)
  exact ⟨rfl, (superclass_cycles shopConfig Hooks.none outsideGraph rfl).1 _ ht
    ⟨rfl, "lib.A", .single ⟨hloop, Or.inr hlibA⟩,
      .head ⟨ha, Or.inr hlibB⟩ (.single ⟨hb, Or.inr hlibA⟩)⟩⟩

/-- Two candidates that are superclasses of each other are accepted, and their components are
composed in a circle. -/
theorem mutual_superclasses_accepted :
    (∃ t ∈ candidateTypes shopConfig Hooks.none mutualGraph, t.isEnum = false ∧
      ComesBack (IsSuperclass shopConfig mutualGraph) t.name) ∧
    ∃ d, (generate shopConfig Hooks.none mutualGraph).result = .ok d ∧
      ∃ a, TransGen d.Composes a a := by
  have hab : IsSuperclass shopConfig mutualGraph "shop.model.A" "shop.model.B" :=
    ⟨_, List.mem_cons_self .., rfl, rfl, by decide +kernel⟩
  have hba : IsSuperclass shopConfig mutualGraph "shop.model.B" "shop.model.A" :=
    ⟨_, List.mem_cons_of_mem _ (List.mem_cons_self ..), rfl, rfl, by decide +kernel⟩
  have ha : { name := "shop.model.A", superclass := some "shop.model.B" } ∈
      candidateTypes shopConfig Hooks.none mutualGraph :=
    mem_candidateTypes.2 ⟨List.mem_cons_self .., by decide +kernel⟩
  have hb : { name := "shop.model.B", superclass := some "shop.model.A" } ∈
      candidateTypes shopConfig Hooks.none mutualGraph :=
    mem_candidateTypes.2 ⟨List.mem_cons_of_mem _ (List.mem_cons_self ..), by decide +kernel⟩
  obtain ⟨d, hd⟩ := exists_eq_ok_of_toBool
    (show (generate shopConfig Hooks.none mutualGraph).result.toBool = true by decide +kernel)
  refine ⟨⟨_, ha, rfl, _, .refl, .head hab (.single hba)⟩, d, hd, ?_⟩
  have hAB := composes_of_superclass rfl hd ha hb rfl rfl (by decide +kernel)
  have hBA := composes_of_superclass rfl hd hb ha rfl rfl (by decide +kernel)
  exact ⟨_, .head hAB (.single hBA)⟩

end ApiContract
