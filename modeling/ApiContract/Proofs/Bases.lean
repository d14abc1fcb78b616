import ApiContract.Proofs.Candidates
import ApiContract.Proofs.Table
/-!
# Polymorphic bases

What the resolution of polymorphic declarations accepts, and what it gives. A declaration is well
formed if it lists subclasses of the graph, without repeating a subclass or a discriminator value,
names no blank property, and keeps a candidate.

* `result_resolveSubtypes_eq_ok` : the declared subclasses that are accepted, and the table of those
  that are kept.
* `result_resolvePolymorphism_eq_ok` : resolution succeeds exactly on well-formed declarations, and
  gives the bases in order of declaration.
* `IsScopeOf.base_spec` : what is known of every base of a generation.
* `PolymorphicBase.IsInverted` : the mapping is the table of classes turned round, and its inverse.
-/

namespace ApiContract

variable {graph : TypeGraph} {names : List String} {base : String}

/-- The subclasses among some names, with their discriminator values. -/
def keptSubtypes (names : List String) (subtypes : List SubtypeDecl) : Assoc String String :=
  (subtypes.filter fun d => decide (d.typeName ∈ names)).map fun d => (d.typeName, d.resolvedTag)

/-- A polymorphic declaration is well formed. -/
structure IsWellFormed (graph : TypeGraph) (names : List String) (property : Option String)
    (subtypes : List SubtypeDecl) : Prop where
  not_blank : isBlankProperty property = false
  known : ∀ d ∈ subtypes, graph.contains d.typeName = true
  nodup_tags : (subtypes.map (·.resolvedTag)).Nodup
  nodup_classes : (subtypes.map (·.typeName)).Nodup
  kept : ∃ d ∈ subtypes, d.typeName ∈ names

/-- The base that a type declares. -/
def declaredBase? (names : List String) (t : TypeDescriptor) : Option PolymorphicBase :=
  t.directives.polymorphic?.map fun (property, subtypes) =>
    ⟨property.getD defaultDiscriminatorProperty, keptSubtypes names subtypes⟩

/-! ## The subclasses of one declaration -/

theorem keptSubtypes_cons (d : SubtypeDecl) (rest : List SubtypeDecl) :
    keptSubtypes names (d :: rest) =
      if d.typeName ∈ names then (d.typeName, d.resolvedTag) :: keptSubtypes names rest
      else keptSubtypes names rest := by
  by_cases h : d.typeName ∈ names <;> simp [keptSubtypes, h]

theorem mem_keptSubtypes {subtypes : List SubtypeDecl} {p : String × String} :
    p ∈ keptSubtypes names subtypes ↔
      ∃ d ∈ subtypes, d.typeName ∈ names ∧ p = (d.typeName, d.resolvedTag) := by
  simp only [keptSubtypes, List.mem_map, List.mem_filter, decide_eq_true_eq]
  constructor
  · rintro ⟨d, ⟨hd, hn⟩, rfl⟩
    exact ⟨d, hd, hn, rfl⟩
  · rintro ⟨d, hd, hn, rfl⟩
    exact ⟨d, ⟨hd, hn⟩, rfl⟩

theorem keys_keptSubtypes (subtypes : List SubtypeDecl) :
    (keptSubtypes names subtypes).keys =
      (subtypes.filter fun d => decide (d.typeName ∈ names)).map (·.typeName) := by
  simp [keptSubtypes, Assoc.keys, Function.comp_def]

theorem values_keptSubtypes (subtypes : List SubtypeDecl) :
    (keptSubtypes names subtypes).values =
      (subtypes.filter fun d => decide (d.typeName ∈ names)).map (·.resolvedTag) := by
  simp [keptSubtypes, Assoc.values, Function.comp_def]

/-- One step: what is checked of a declared subclass, and what is added to the table. -/
theorem result_resolveSubtypes_cons_eq_ok {seenTags seenClasses : List String}
    {classes out : Assoc String String} {d : SubtypeDecl} {rest : List SubtypeDecl} :
    (resolveSubtypes graph names base seenTags seenClasses classes (d :: rest)).result = .ok out ↔
      graph.contains d.typeName = true ∧ d.resolvedTag ∉ seenTags ∧ d.typeName ∉ seenClasses ∧
        (resolveSubtypes graph names base (d.resolvedTag :: seenTags) (d.typeName :: seenClasses)
          (if d.typeName ∈ names then classes.insert d.typeName d.resolvedTag else classes)
          rest).result = .ok out := by
  rw [resolveSubtypes]
  by_cases hg : graph.contains d.typeName = true
  · by_cases ht : d.resolvedTag ∈ seenTags
    · simp [hg, ht]
    · by_cases hc : d.typeName ∈ seenClasses
      · simp [hg, ht, hc]
      · by_cases hn : d.typeName ∈ names
        · simp [hg, ht, hc, hn]
        · simp only [hg, ht, hc, hn, Bool.not_true, Bool.false_eq_true, if_false, not_false_eq_true,
            true_and]
          rw [Traced.result_report_bind]
  · simp [hg]

theorem result_resolveSubtypes_eq_ok {seenTags seenClasses : List String}
    {classes out : Assoc String String} (hseen : ∀ c ∈ classes.keys, c ∈ seenClasses)
    (subtypes : List SubtypeDecl) :
    (resolveSubtypes graph names base seenTags seenClasses classes subtypes).result = .ok out ↔
      (∀ d ∈ subtypes, graph.contains d.typeName = true) ∧
      (subtypes.map (·.resolvedTag)).Nodup ∧ (∀ d ∈ subtypes, d.resolvedTag ∉ seenTags) ∧
      (subtypes.map (·.typeName)).Nodup ∧ (∀ d ∈ subtypes, d.typeName ∉ seenClasses) ∧
      out = classes ++ keptSubtypes names subtypes := by
  induction subtypes generalizing seenTags seenClasses classes with
  | nil =>
    rw [resolveSubtypes, Traced.result_pure, Except.ok.injEq]
    simpa [keptSubtypes] using eq_comm
  | cons d rest ih =>
    rw [result_resolveSubtypes_cons_eq_ok]
    by_cases hd : d.typeName ∈ seenClasses
    · simp [hd]
    -- the table grows at its end, since the subclass has not been met
    have hfresh : d.typeName ∉ classes.keys := fun h => hd (hseen _ h)
    have hgrown : (if d.typeName ∈ names then classes.insert d.typeName d.resolvedTag else classes)
        ++ keptSubtypes names rest = classes ++ keptSubtypes names (d :: rest) := by
      rw [keptSubtypes_cons]
      by_cases hn : d.typeName ∈ names
      · rw [if_pos hn, if_pos hn, Assoc.insert_of_not_mem hfresh]
        simp
      · rw [if_neg hn, if_neg hn]
    have hseen' : ∀ c ∈ Assoc.keys
        (if d.typeName ∈ names then classes.insert d.typeName d.resolvedTag else classes),
        c ∈ d.typeName :: seenClasses := by
      intro c hc
      by_cases hn : d.typeName ∈ names
      · rw [if_pos hn, Assoc.mem_keys_insert] at hc
        rcases hc with rfl | hc
        · exact List.mem_cons_self ..
        · exact List.mem_cons_of_mem _ (hseen c hc)
      · rw [if_neg hn] at hc
        exact List.mem_cons_of_mem _ (hseen c hc)
    rw [ih hseen', hgrown]
    simp only [List.forall_mem_cons, List.map_cons, List.nodup_cons]
    simp only [List.mem_map, List.mem_cons, not_or, not_exists, not_and]
    constructor
    · rintro ⟨hg, ht, hc, hgs, htn, hts, hcn, hcs, rfl⟩
      exact ⟨⟨hg, hgs⟩, ⟨fun e he heq => (hts e he).1 heq, htn⟩, ⟨ht, fun e he => (hts e he).2⟩,
        ⟨fun e he heq => (hcs e he).1 heq, hcn⟩, ⟨hc, fun e he => (hcs e he).2⟩, rfl⟩
    · rintro ⟨⟨hg, hgs⟩, ⟨htd, htn⟩, ⟨ht, hts⟩, ⟨hcd, hcn⟩, ⟨hc, hcs⟩, rfl⟩
      exact ⟨hg, ht, hc, hgs, htn, fun e he => ⟨htd e he, hts e he⟩, hcn,
        fun e he => ⟨hcd e he, hcs e he⟩, rfl⟩

theorem result_resolveSubtypes_error {seenTags seenClasses : List String}
    {classes : Assoc String String} {subtypes : List SubtypeDecl} {fault : Fault}
    (h : (resolveSubtypes graph names base seenTags seenClasses classes subtypes).result =
      .error fault) : fault.IsOtherConfiguration := by
  induction subtypes generalizing seenTags seenClasses classes with
  | nil => cases h
  | cons d rest ih =>
    rw [resolveSubtypes] at h
    split at h
    · exact ⟨_, (Except.error.inj h).symm, nofun⟩
    · split at h
      · exact ⟨_, (Except.error.inj h).symm, nofun⟩
      · split at h
        · exact ⟨_, (Except.error.inj h).symm, nofun⟩
        · split at h
          · exact ih h
          · rw [Traced.result_report_bind] at h
            exact ih h

/-! ## One declaration -/

theorem keptSubtypes_isEmpty {subtypes : List SubtypeDecl} :
    (keptSubtypes names subtypes).isEmpty = false ↔ ∃ d ∈ subtypes, d.typeName ∈ names := by
  rw [List.isEmpty_eq_false_iff_exists_mem]
  constructor
  · rintro ⟨p, hp⟩
    obtain ⟨d, hd, hn, -⟩ := mem_keptSubtypes.1 hp
    exact ⟨d, hd, hn⟩
  · rintro ⟨d, hd, hn⟩
    exact ⟨_, mem_keptSubtypes.2 ⟨d, hd, hn, rfl⟩⟩

/-- The declaration of a type, if it has one, is accepted exactly if it is well formed. -/
theorem result_resolveBase_eq_ok {t : TypeDescriptor} {b : Option PolymorphicBase} :
    (resolveBase graph names t).result = .ok b ↔
      (∀ property subtypes, t.directives.polymorphic? = some (property, subtypes) →
        IsWellFormed graph names property subtypes) ∧ b = declaredBase? names t := by
  rw [resolveBase, declaredBase?]
  cases hp : t.directives.polymorphic? with
  | none => simp [eq_comm]
  | some declaration =>
    obtain ⟨property, subtypes⟩ := declaration
    simp only [Option.some.injEq, Prod.mk.injEq, Option.map_some]
    constructor
    · intro h
      split at h
      · cases h
      · split at h
        · cases h
        next hblank =>
        obtain ⟨classes, hclasses, h⟩ := Traced.result_bind_eq_ok.1 h
        obtain ⟨hknown, htags, -, hnames, -, rfl⟩ :=
          (result_resolveSubtypes_eq_ok (by simp) subtypes).1 hclasses
        rw [List.nil_append] at h
        split at h
        · cases h
        next hkept =>
        cases h
        refine ⟨?_, rfl⟩
        rintro _ _ ⟨rfl, rfl⟩
        exact ⟨by simpa using hblank, hknown, htags, hnames,
          keptSubtypes_isEmpty.1 (by simpa using hkept)⟩
    · rintro ⟨h, rfl⟩
      obtain ⟨hblank, hknown, htags, hnames, hkept⟩ := h property subtypes ⟨rfl, rfl⟩
      have hne : subtypes.isEmpty = false := by
        obtain ⟨d, hd, -⟩ := hkept
        exact List.isEmpty_eq_false_iff_exists_mem.2 ⟨d, hd⟩
      have hclasses : (resolveSubtypes graph names t.name [] [] [] subtypes).result =
          .ok (keptSubtypes names subtypes) :=
        (result_resolveSubtypes_eq_ok (by simp) subtypes).2
          ⟨hknown, htags, by simp, hnames, by simp, rfl⟩
      rw [hne, hblank]
      simp only [Bool.false_eq_true, if_false]
      rw [Traced.result_bind_of_ok hclasses, keptSubtypes_isEmpty.2 hkept]
      rfl

theorem result_resolveBase_error {t : TypeDescriptor} {fault : Fault}
    (h : (resolveBase graph names t).result = .error fault) :
    fault.IsOtherConfiguration := by
  rw [resolveBase] at h
  split at h
  · cases h
  · split at h
    · exact ⟨_, (Except.error.inj h).symm, nofun⟩
    · split at h
      · exact ⟨_, (Except.error.inj h).symm, nofun⟩
      · rcases Traced.result_bind_eq_error.1 h with h | ⟨classes, -, h⟩
        · exact result_resolveSubtypes_error h
        · split at h
          · exact ⟨_, (Except.error.inj h).symm, nofun⟩
          · cases h

/-! ## All declarations -/

/-- The bases that some types declare, in order of declaration. -/
def declaredBases (names : List String) (types : List TypeDescriptor) : PolymorphismMap :=
  types.filterMap fun t => (declaredBase? names t).map fun b => (t.name, b)

theorem mem_declaredBases {types : List TypeDescriptor} {name : String} {b : PolymorphicBase} :
    (name, b) ∈ declaredBases names types ↔
      ∃ t ∈ types, t.name = name ∧ declaredBase? names t = some b := by
  simp only [declaredBases, List.mem_filterMap, Option.map_eq_some_iff, Prod.mk.injEq]
  constructor
  · rintro ⟨t, ht, b', hb, rfl, rfl⟩
    exact ⟨t, ht, rfl, hb⟩
  · rintro ⟨t, ht, rfl, hb⟩
    exact ⟨t, ht, b, hb, rfl, rfl⟩

theorem keys_declaredBases_sublist (types : List TypeDescriptor) :
    (declaredBases names types).keys.Sublist (types.map (·.name)) := by
  induction types with
  | nil => exact List.Sublist.refl _
  | cons t rest ih =>
    rw [declaredBases, List.filterMap_cons, List.map_cons]
    cases declaredBase? names t with
    | none => exact ih.cons _
    | some b => exact ih.cons_cons _

theorem result_resolveBases_eq_ok {bases out : PolymorphismMap} {types : List TypeDescriptor}
    (hn : (bases.keys ++ types.map (·.name)).Nodup) :
    (resolveBases graph names bases types).result = .ok out ↔
      (∀ t ∈ types, ∀ property subtypes, t.directives.polymorphic? = some (property, subtypes) →
        IsWellFormed graph names property subtypes) ∧
      out = bases ++ declaredBases names types := by
  induction types generalizing bases with
  | nil =>
    rw [resolveBases, Traced.result_pure, Except.ok.injEq]
    simpa [declaredBases] using eq_comm
  | cons t rest ih =>
    rw [resolveBases, Traced.result_bind_eq_ok]
    simp only [result_resolveBase_eq_ok, List.forall_mem_cons]
    rw [List.map_cons] at hn
    have hrest : (bases.keys ++ rest.map (·.name)).Nodup :=
      ((List.sublist_cons_self _ _).append_left _).nodup hn
    cases hb : declaredBase? names t with
    | none =>
      have hgrown : declaredBases names (t :: rest) = declaredBases names rest := by
        simp [declaredBases, hb]
      rw [hgrown]
      constructor
      · rintro ⟨b, ⟨ht, rfl⟩, h⟩
        obtain ⟨hts, rfl⟩ := (ih hrest).1 h
        exact ⟨⟨ht, hts⟩, rfl⟩
      · rintro ⟨⟨ht, hts⟩, rfl⟩
        exact ⟨none, ⟨ht, rfl⟩, (ih hrest).2 ⟨hts, rfl⟩⟩
    | some b =>
      -- the names of the types are distinct, so the base goes to the end of the map
      have hfresh : t.name ∉ bases.keys := fun hmem =>
        (List.nodup_append.1 hn).2.2 t.name hmem t.name (List.mem_cons_self ..) rfl
      have hgrown : bases.insert t.name b ++ declaredBases names rest =
          bases ++ declaredBases names (t :: rest) := by
        rw [Assoc.insert_of_not_mem hfresh]
        simp [declaredBases, hb]
      have hnext : ((bases.insert t.name b).keys ++ rest.map (·.name)).Nodup := by
        rw [Assoc.keys_insert, if_neg hfresh]
        simpa using hn
      rw [← hgrown]
      constructor
      · rintro ⟨b', ⟨ht, rfl⟩, h⟩
        rw [Traced.result_report_bind] at h
        obtain ⟨hts, rfl⟩ := (ih hnext).1 h
        exact ⟨⟨ht, hts⟩, rfl⟩
      · rintro ⟨⟨ht, hts⟩, rfl⟩
        refine ⟨some b, ⟨ht, rfl⟩, ?_⟩
        rw [Traced.result_report_bind]
        exact (ih hnext).2 ⟨hts, rfl⟩

/-- Resolution succeeds exactly if all declarations of the candidates are well formed, and gives the
bases in order of declaration, each with the subclasses that are candidates. -/
theorem result_resolvePolymorphism_eq_ok {types : List TypeDescriptor} {out : PolymorphismMap}
    (hn : (types.map (·.name)).Nodup) :
    (resolvePolymorphism graph types).result = .ok out ↔
      (∀ t ∈ types, ∀ property subtypes, t.directives.polymorphic? = some (property, subtypes) →
        IsWellFormed graph (types.map (·.name)) property subtypes) ∧
      out = declaredBases (types.map (·.name)) types := by
  rw [resolvePolymorphism, result_resolveBases_eq_ok (by simpa using hn), List.nil_append]

theorem result_resolveBases_error {bases : PolymorphismMap} {types : List TypeDescriptor}
    {fault : Fault} (h : (resolveBases graph names bases types).result = .error fault) :
    fault.IsOtherConfiguration := by
  induction types generalizing bases with
  | nil => cases h
  | cons t rest ih =>
    rw [resolveBases] at h
    rcases Traced.result_bind_eq_error.1 h with h | ⟨b, -, h⟩
    · exact result_resolveBase_error h
    · cases b with
      | none => exact ih h
      | some b =>
        rw [Traced.result_report_bind] at h
        exact ih h

theorem result_resolvePolymorphism_error {types : List TypeDescriptor} {fault : Fault}
    (h : (resolvePolymorphism graph types).result = .error fault) :
    fault.IsOtherConfiguration := result_resolveBases_error h

/-! ## The bases of a generation -/

/-- What resolution guarantees of a base: it has subclasses, all of them candidates, and repeats
neither a subclass nor a discriminator value. -/
structure IsBaseOf (types : List TypeDescriptor) (b : PolymorphicBase) : Prop where
  nonempty : b.classes ≠ []
  nodup_classes : b.classes.keys.Nodup
  nodup_tags : b.classes.values.Nodup
  candidate : ∀ c ∈ b.classes.keys, ∃ t ∈ types, t.name = c

theorem isBaseOf_declaredBase? {types : List TypeDescriptor} {t : TypeDescriptor}
    {b : PolymorphicBase}
    (hwf : ∀ property subtypes, t.directives.polymorphic? = some (property, subtypes) →
      IsWellFormed graph (types.map (·.name)) property subtypes)
    (hb : declaredBase? (types.map (·.name)) t = some b) : IsBaseOf types b := by
  rw [declaredBase?, Option.map_eq_some_iff] at hb
  obtain ⟨⟨property, subtypes⟩, hp, rfl⟩ := hb
  obtain ⟨-, -, htags, hclasses, hkept⟩ := hwf property subtypes hp
  refine ⟨?_, ?_, ?_, ?_⟩
  · exact List.isEmpty_eq_false_iff.1 (keptSubtypes_isEmpty.2 hkept)
  · rw [keys_keptSubtypes]
    exact (List.filter_sublist.map _).nodup hclasses
  · rw [values_keptSubtypes]
    exact (List.filter_sublist.map _).nodup htags
  · intro c hc
    rw [keys_keptSubtypes, List.mem_map] at hc
    obtain ⟨d, hd, rfl⟩ := hc
    simpa using (List.mem_filter.1 hd).2

namespace IsScopeOf

variable {config : Config} {hooks : Hooks} {bases : PolymorphismMap} {s : Scope}

theorem bases_eq_declared (h : IsScopeOf config hooks graph bases s) :
    (∀ t ∈ candidateTypes config hooks graph, ∀ property subtypes,
      t.directives.polymorphic? = some (property, subtypes) →
        IsWellFormed graph ((candidateTypes config hooks graph).map (·.name)) property subtypes) ∧
    bases = declaredBases ((candidateTypes config hooks graph).map (·.name))
      (candidateTypes config hooks graph) := by
  have hb := h.bases_eq
  rw [result_polymorphicBases h.namespaces_eq] at hb
  exact (result_resolvePolymorphism_eq_ok nodup_names_candidateTypes).1 hb

theorem keys_bases_sublist (h : IsScopeOf config hooks graph bases s) :
    bases.keys.Sublist ((candidateTypes config hooks graph).map (·.name)) := by
  rw [h.bases_eq_declared.2]
  exact keys_declaredBases_sublist _

/-- Every base of a generation is a candidate, and what resolution guarantees. -/
theorem base_spec (h : IsScopeOf config hooks graph bases s) {name : String} {b : PolymorphicBase}
    (hb : (name, b) ∈ bases) :
    IsCandidateName config hooks graph name ∧
      IsBaseOf (candidateTypes config hooks graph) b := by
  obtain ⟨hwf, heq⟩ := h.bases_eq_declared
  rw [heq] at hb
  obtain ⟨t, ht, hname, hdeclared⟩ := mem_declaredBases.1 hb
  exact ⟨⟨t, ht, hname⟩, isBaseOf_declaredBase? (hwf t ht) hdeclared⟩

/-- The same of a base that the scope finds by its name. -/
theorem polymorphicBase?_spec (h : IsScopeOf config hooks graph bases s) {name : String}
    {b : PolymorphicBase} (hb : s.polymorphicBase? name = some b) :
    IsCandidateName config hooks graph name ∧
      IsBaseOf (candidateTypes config hooks graph) b :=
  h.base_spec (Assoc.mem_of_get? ((h.polymorphicBase?_eq name).symm.trans hb))

end IsScopeOf

/-! ## The mapping of a base -/

namespace PolymorphicBase

/-- The mapping leads from each discriminator value to the component of its subclass, in order, and
neither values nor components repeat. -/
structure IsInverted (b : PolymorphicBase) : Prop where
  mapping_eq : b.mapping = b.classes.map fun p => (p.2, simpleNameOf p.1)
  nodup_tags : b.classes.values.Nodup
  nodup_components : (b.classes.keys.map simpleNameOf).Nodup
  inverse : ∀ c tag, b.tagOf? c = some tag ↔
    c ∈ b.classes.keys ∧ b.mapping.get? tag = some (simpleNameOf c)

variable {b : PolymorphicBase}

/-- The mapping is the table of classes turned round, in the same order. -/
theorem mapping_eq (h : b.classes.values.Nodup) :
    b.mapping = b.classes.map fun p => (p.2, simpleNameOf p.1) := by
  rw [mapping, Assoc.ofPairs_eq_self]
  rw [List.map_map]
  exact h

theorem keys_mapping (h : b.classes.values.Nodup) : b.mapping.keys = b.classes.values := by
  rw [mapping_eq h]
  simp [Assoc.keys, Assoc.values, Function.comp_def]

theorem values_mapping (h : b.classes.values.Nodup) :
    b.mapping.values = b.classes.keys.map simpleNameOf := by
  rw [mapping_eq h]
  simp [Assoc.keys, Assoc.values, Function.comp_def]

/-- The mapping leads from a discriminator value to the component of the class that has it. -/
theorem get?_mapping_eq_some_iff (hc : b.classes.keys.Nodup) (ht : b.classes.values.Nodup)
    {tag component : String} :
    b.mapping.get? tag = some component ↔
      ∃ c, b.tagOf? c = some tag ∧ simpleNameOf c = component := by
  rw [Assoc.get?_eq_some_iff (by rw [keys_mapping ht]; exact ht), mapping_eq ht]
  simp only [List.mem_map, Prod.mk.injEq, Prod.exists, tagOf?]
  constructor
  · rintro ⟨c, tag', hmem, rfl, rfl⟩
    exact ⟨c, Assoc.get?_of_mem hc hmem, rfl⟩
  · rintro ⟨c, hget, rfl⟩
    exact ⟨c, tag, Assoc.mem_of_get? hget, rfl, rfl⟩

theorem isInverted_of_nodup (hc : b.classes.keys.Nodup) (ht : b.classes.values.Nodup)
    (hn : (b.classes.keys.map simpleNameOf).Nodup) : b.IsInverted := by
  refine ⟨mapping_eq ht, ht, hn, fun c tag => ?_⟩
  rw [get?_mapping_eq_some_iff hc ht]
  constructor
  · intro h
    exact ⟨Assoc.mem_keys_of_mem (Assoc.mem_of_get? h), c, h, rfl⟩
  · rintro ⟨hmem, c', htag, hname⟩
    have hmem' : c' ∈ b.classes.keys := Assoc.mem_keys_of_mem (Assoc.mem_of_get? htag)
    rw [← List.inj_on_of_nodup_map hn hmem' hmem hname]
    exact htag

/-- A base knows a discriminator value of a class exactly if it gives it. -/
theorem IsInverted.get?_mapping_iff (hb : b.IsInverted) {c tag value : String}
    (ht : b.tagOf? c = some tag) :
    b.mapping.get? value = some (simpleNameOf c) ↔ value = tag := by
  have hmem : c ∈ b.classes.keys := ((hb.inverse c tag).1 ht).1
  constructor
  · intro hget
    have hvalue : b.tagOf? c = some value := (hb.inverse c value).2 ⟨hmem, hget⟩
    rw [ht] at hvalue
    exact (Option.some.inj hvalue).symm
  · rintro rfl
    exact ((hb.inverse c value).1 ht).2

end PolymorphicBase

/-- If the simple names of the candidates are distinct, the mapping of a base is the inverse of its
table of classes. -/
theorem IsBaseOf.isInverted {types : List TypeDescriptor} {b : PolymorphicBase}
    (hb : IsBaseOf types b) (hn : (types.map (·.simpleName)).Nodup) : b.IsInverted := by
  refine PolymorphicBase.isInverted_of_nodup hb.nodup_classes hb.nodup_tags
    (List.Nodup.map_on (fun c hc c' hc' hname => ?_) hb.nodup_classes)
  obtain ⟨t, ht, rfl⟩ := hb.candidate c hc
  obtain ⟨t', ht', rfl⟩ := hb.candidate c' hc'
  rw [List.inj_on_of_nodup_map hn ht ht' hname]

end ApiContract
