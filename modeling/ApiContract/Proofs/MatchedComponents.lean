import ApiContract.Proofs.MatchedGraphs
import ApiContract.Proofs.PairedWalks
/-!
# Components of matching graphs

In matching scopes every value type has the same schema, the superclasses of matching classes match,
and matching types become the same components, or fail with the same fault.

* `ScopeMatch.schemaOf_paired` : schemas of value types.
* `ScopeMatch.answersAlike` : superclasses.
* `componentOf_paired`, `componentsOf_paired` : components.
-/

namespace ApiContract

open List (Forall₂)
open Traced (Paired)

variable {hooks hooks' : Hooks} {s s' : Scope} {t t' : TypeDescriptor}

/-! ## Scopes -/

namespace ScopeMatch

theorem isComponent_eq (h : ScopeMatch hooks hooks' s s') (name : String) :
    s.isComponent name = s'.isComponent name := by
  rw [Scope.isComponent, Scope.isComponent, Scope.isScanned, Scope.isScanned, h.namespaces_eq,
    h.components_eq]

theorem isRootType_eq (h : ScopeMatch hooks hooks' s s') (name : String) :
    s.isRootType name = s'.isRootType name := by
  rw [Scope.isRootType, Scope.isRootType, h.rootTypes_eq]

theorem polymorphicBase?_eq (h : ScopeMatch hooks hooks' s s') (name : String) :
    s.polymorphicBase? name = s'.polymorphicBase? name := by
  rw [Scope.polymorphicBase?, Scope.polymorphicBase?, h.polymorphism_eq]

/-- A named type has the same schema in both scopes. -/
theorem namedNode_eq (h : ScopeMatch hooks hooks' s s') (style : ReferenceStyle) (name : String) :
    namedNode s style name = namedNode s' style name := by
  rw [namedNode, namedNode, Scope.component?, Scope.component?, Scope.lookup?, Scope.lookup?,
    h.polymorphicBase?_eq, h.isComponent_eq]
  rcases optionRel_cases (h.graph.get? name) with ⟨hn, hn'⟩ | ⟨t, t', ht, ht', hmatch⟩
  · rw [hn, hn']
  · rw [ht, ht']
    cases s'.isComponent name with
    | false => rfl
    | true =>
      simp only [Option.filter_some, if_true]
      rw [hmatch.simpleName_eq]

theorem schema?_eq (h : ScopeMatch hooks hooks' s s') (style : ReferenceStyle) (t : TypeRef) :
    schema? s style t = schema? s' style t := by
  have hleaf : leafNode? s style t.leaf = leafNode? s' style t.leaf := by
    cases t.leaf with
    | named name => exact congrArg some (h.namedNode_eq style name)
    | _ => rfl
  rw [schema?, schema?, hleaf]

/-- A value type has the same schema in both scopes, or the same fault. -/
theorem schemaOf_paired (h : ScopeMatch hooks hooks' s s') (style : ReferenceStyle) (t : TypeRef) :
    Paired Eq (schemaOf s style t) (schemaOf s' style t) := by
  apply Paired.of_result_eq
  rw [result_schemaOf, result_schemaOf, h.schema?_eq]

end ScopeMatch

/-! ## Superclasses -/

/-- Both scopes find matching types under all names. -/
theorem ScopeMatch.answersAlike (h : ScopeMatch hooks hooks' s s') :
    Scope.AnswersAlike (fun _ => True) (TypeMatch hooks hooks') s s' where
  isRootType_eq name _ := h.isRootType_eq name
  isComponent_eq name _ := h.isComponent_eq name
  get?_eq_none _ _ hlook := h.graph.get?_eq_none hlook
  exists_get? _ _ _ hlook := h.graph.exists_get? hlook
  superclass_eq _ _ hmatch := hmatch.superclass_eq
  known_superclass _ _ _ _ _ := trivial

/-! ## Components -/

section

variable (hz : hooks.interceptorCount = 0) (hz' : hooks'.interceptorCount = 0)

include hz hz'

theorem fieldProperty_paired (h : ScopeMatch hooks hooks' s s') {owner owner' : TypeDescriptor}
    (hname : owner.name = owner'.name) (f : FieldDescriptor) :
    Paired Eq (fieldProperty s hooks owner f) (fieldProperty s' hooks' owner' f) := by
  rw [fieldProperty, fieldProperty, hname]
  apply ((h.schemaOf_paired .polymorphic f.type).mapFault _).bind_same
  intro resolved
  cases resolved with
  | none => exact .refl _
  | some schema =>
    dsimp only
    rw [Hooks.interceptField_eq hz, Hooks.interceptField_eq hz']
    exact .refl _

/-- Fields that are left out on both sides make no difference. -/
theorem addFields_paired (h : ScopeMatch hooks hooks' s s') {owner owner' : TypeDescriptor}
    (hname : owner.name = owner'.name) (object : ObjectShape Schema)
    {fields fields' : List FieldDescriptor} (hf : Forall₂ FieldMatch fields fields') :
    Paired Eq (addFields s hooks owner object fields)
      (addFields s' hooks' owner' object fields') := by
  induction hf generalizing object with
  | nil => exact .refl _
  | @cons f f' rest rest' hf hrest ih =>
    cases hf with
    | hidden hskip hskip' =>
      rw [addFields, addFields, if_pos hskip, if_pos hskip']
      exact ih object
    | shown =>
      rw [addFields, addFields]
      split
      · exact ih object
      · apply (fieldProperty_paired hz hz' h hname f).bind_same
        intro property
        cases property with
        | none => exact ih object
        | some p => exact ih _

theorem flattenInto_paired (h : ScopeMatch hooks hooks' s s') (type : String)
    (object : ObjectShape Schema) {ancestors ancestors' : List TypeDescriptor}
    (ha : Forall₂ (TypeMatch hooks hooks') ancestors ancestors') :
    Paired Eq (flattenInto s hooks type object ancestors)
      (flattenInto s' hooks' type object ancestors') := by
  induction ha generalizing object with
  | nil => exact .refl _
  | cons ht hrest ih =>
    rw [flattenInto, flattenInto]
    apply Paired.report_bind
    apply (addFields_paired hz hz' h ht.name_eq object ht.fields).bind_same
    intro object'
    exact ih object'

theorem classSchema_paired (h : ScopeMatch hooks hooks' s s') (ht : TypeMatch hooks hooks' t t') :
    Paired Eq (classSchema s hooks t) (classSchema s' hooks' t') := by
  rw [classSchema, classSchema, resolveAncestry, resolveAncestry, ht.name_eq, ht.superclass_eq]
  apply (h.answersAlike.walkAncestry_paired t'.name [t'.name] t'.superclass fun _ _ => trivial).bind
  rintro a a' ⟨hflattened, hparent⟩
  have hobject : Paired Eq (classObject s hooks t a.flattened)
      (classObject s' hooks' t' a'.flattened) := by
    rw [classObject, classObject, ht.name_eq, h.polymorphicBase?_eq]
    apply (flattenInto_paired hz hz' h t'.name {} (List.rel_reverse hflattened)).bind_same
    intro object
    apply (addFields_paired hz hz' h ht.name_eq object ht.fields).bind_same
    intro object'
    exact .refl _
  apply hobject.bind_same
  intro object
  rcases optionRel_cases hparent with ⟨hn, hn'⟩ | ⟨p, p', hp, hp', hmatch⟩
  · rw [hn, hn']
    exact .refl _
  · rw [hp, hp']
    dsimp only
    rw [hmatch.simpleName_eq, subclassTag?, subclassTag?, h.polymorphism_eq]
    exact .refl _

theorem componentOf_paired (h : ScopeMatch hooks hooks' s s')
    (ht : ComponentMatch hooks hooks' t t') :
    Paired Eq (componentOf s hooks t) (componentOf s' hooks' t') := by
  obtain ⟨ht, hdirectives⟩ := ht
  have hfinished : ∀ schema,
      hooks.interceptSchema s t (t.directives.applyToType schema) =
        hooks'.interceptSchema s' t' (t'.directives.applyToType schema) := by
    intro schema
    rw [Hooks.interceptSchema_eq hz, Hooks.interceptSchema_eq hz', hdirectives]
  rw [componentOf, componentOf, ht.isEnum_eq, ht.constants_eq]
  split
  · rw [pure_bind, pure_bind]
    exact .report_bind _ _ (.pure (hfinished _))
  · apply (classSchema_paired hz hz' h ht).bind_same
    intro schema
    exact .report_bind _ _ (.pure (hfinished schema))

/-- Matching types become the same components. -/
theorem componentsOf_paired (h : ScopeMatch hooks hooks' s s') (owners : Assoc String String)
    (components : Assoc String Schema) {types types' : List TypeDescriptor}
    (ht : Forall₂ (ComponentMatch hooks hooks') types types') :
    Paired Eq (componentsOf s hooks owners components types)
      (componentsOf s' hooks' owners components types') := by
  induction ht generalizing owners components with
  | nil => exact .refl _
  | cons ht hrest ih =>
    rw [componentsOf, componentsOf, ht.1.simpleName_eq, ht.1.name_eq]
    split
    · exact .fail _
    · apply (componentOf_paired hz hz' h ht).bind_same
      intro schema
      exact ih _ _

end

end ApiContract
