import ApiContract.Proofs.Generation
import ApiContract.Proofs.SuperclassChains
/-!
# Compositions of components

The component of a class is composed with the nearest candidate on its chain of superclasses, if
there is one, and then names the discriminator value of the class.

* `Document.Composes` : a component is composed with another one.
* `composes_iff` : the composition is that with the nearest candidate.
* `composes_of_superclass` : the case of a superclass that is a candidate itself.
* `value_of_composition` : the discriminator value that a composition names.
-/

namespace ApiContract

/-- The composition of a component names another component. -/
def Document.Composes (d : Document) (a b : String) : Prop :=
  ∃ s composition, d.components.get? a = some s ∧ s.asComposed? = some composition ∧
    ∃ part ∈ composition.allOf, part.target? = some b

variable {config : Config} {hooks : Hooks} {graph : TypeGraph} {bases : PolymorphismMap}
  {scope : Scope} {d : Document}

theorem asComposed?_classNode (t : TypeDescriptor) (ancestry : Ancestry) :
    (classNode scope t ancestry).asComposed? = ancestry.parent.map fun parent =>
      { allOf := [.reference parent.simpleName, .object (objectOf scope ancestry.flattened t)]
        value := subclassTag? scope t.name } := by
  rw [classNode]
  cases ancestry.parent with
  | none => rfl
  | some parent => rfl

/-- The composition of the component of a class, if it is one, is that of its superclasses. -/
theorem asComposed?_componentOf (hz : hooks.interceptorCount = 0) {t : TypeDescriptor} {s : Schema}
    (hs : (componentOf scope hooks t).result = .ok s) :
    (t.isEnum = true ∧ s.asComposed? = none) ∨
      (t.isEnum = false ∧ ∃ ancestry, (resolveAncestry scope t).result = .ok ancestry ∧
        s.asComposed? = (classNode scope t ancestry).asComposed?) := by
  rcases (result_componentOf_eq_ok hz).1 hs with ⟨henum, rfl⟩ | ⟨henum, ancestry, ha, -, rfl⟩
  · exact Or.inl ⟨henum, rfl⟩
  · exact Or.inr ⟨henum, ancestry, ha,
      Schema.asComposed?_congr (Schema.contents_congr (Schema.shape_applyToType _ _))⟩

/-- A composition names the discriminator value of its class under the first base that lists it. -/
theorem value_of_composition (hz : hooks.interceptorCount = 0) {t : TypeDescriptor} {s : Schema}
    (hs : (componentOf scope hooks t).result = .ok s) {c : ComposedShape Schema}
    (hc : s.asComposed? = some c) : c.value = subclassTag? scope t.name := by
  rcases asComposed?_componentOf hz hs with ⟨-, hnone⟩ | ⟨-, ancestry, -, heq⟩
  · rw [hc] at hnone
    cases hnone
  · rw [hc, asComposed?_classNode] at heq
    obtain ⟨parent, -, rfl⟩ := Option.map_eq_some_iff.1 heq.symm
    rfl

/-- What the component of a class is composed with: the nearest candidate on its chain. -/
theorem composes_iff (hz : hooks.interceptorCount = 0)
    (h : IsScopeOf config hooks graph bases scope) {handlers : NamespaceMatcher}
    (hd : (generateIn config hooks graph scope handlers).result = .ok d) {t : TypeDescriptor}
    (ht : t ∈ candidateTypes config hooks graph) {b : String} :
    d.Composes t.simpleName b ↔
      t.isEnum = false ∧ ∃ p ∈ candidateTypes config hooks graph, p.simpleName = b ∧
        NearestCandidate config hooks graph t.name p.name := by
  obtain ⟨s, hs, hget⟩ := (componentsAdded_of_generateIn hd).component t ht
  have hcomposes : d.Composes t.simpleName b ↔ ∃ composition, s.asComposed? = some composition ∧
      ∃ part ∈ composition.allOf, part.target? = some b := by
    simp only [Document.Composes, hget, Option.some.injEq, exists_and_left, exists_eq_left']
  rw [hcomposes]
  rcases asComposed?_componentOf hz hs with ⟨henum, hnone⟩ | ⟨henum, ancestry, ha, heq⟩
  · rw [hnone, henum]
    simp
  · rw [heq, asComposed?_classNode]
    simp only [henum, true_and, Option.map_eq_some_iff]
    have hparent : ∀ p, ancestry.parent = some p ↔ p ∈ candidateTypes config hooks graph ∧
        NearestCandidate config hooks graph t.name p.name := fun p =>
      parent_resolveAncestry_iff h (mem_types_of_mem_candidateTypes ht) ha
    constructor
    · rintro ⟨composition, ⟨p, hp, rfl⟩, part, hpart, htarget⟩
      obtain ⟨hp, hnear⟩ := (hparent p).1 hp
      refine ⟨p, hp, ?_, hnear⟩
      -- of the two parts only the first is a reference
      rcases List.mem_cons.1 hpart with rfl | hpart
      · exact Option.some.inj htarget
      · obtain rfl := List.mem_singleton.1 hpart
        cases htarget
    · rintro ⟨p, hp, rfl, hnear⟩
      exact ⟨_, ⟨p, (hparent p).2 ⟨hp, hnear⟩, rfl⟩, _, List.mem_cons_self .., rfl⟩

/-- A class whose superclass is a candidate is composed with it. -/
theorem composes_of_superclass (hz : hooks.interceptorCount = 0)
    (hg : (generate config hooks graph).result = .ok d) {t p : TypeDescriptor}
    (ht : t ∈ candidateTypes config hooks graph) (hp : p ∈ candidateTypes config hooks graph)
    (henum : t.isEnum = false) (hsuper : t.superclass = some p.name)
    (hroot : p.name ∉ config.rootTypes) : d.Composes t.simpleName p.simpleName := by
  obtain ⟨bases, scope, handlers, h, -, hd⟩ := result_generate_eq_ok.1 hg
  have hlink : IsSuperclass config graph t.name p.name :=
    (isSuperclass_iff (mem_types_of_mem_candidateTypes ht)).2 ⟨hsuper, hroot⟩
  exact (composes_iff hz h hd ht).2
    ⟨henum, p, hp, rfl, .here hlink (isCandidateName_of_mem hp)⟩

end ApiContract
