import Mathlib.Data.List.Forall2
import ApiContract.Component.Component
import ApiContract.Proofs.PairedRuns
import ApiContract.Proofs.Table
/-!
# Components under two pipelines

The object of a class is made field by field, and the hooks of a generation only take part where a
field is added. So a relation of objects that holds at the start and is kept by each step holds in
the end, whatever the hooks do. What is related is an object under one pipeline and the object of the
same class under another one.

* `IsKept` : a relation is kept by each step.
* `IsKept.classObject_paired` : objects under two pipelines are related.
* `Schema.Resembles` : schemas that are the same but for their objects.
* `IsKept.componentOf_paired` : so are components under two pipelines.
* `ObjectShape.EqualBut` : objects that are the same but for one property; the steps that keep them
  so are `EqualBut.insertProperty` and `EqualBut.addTo`.
-/

namespace ApiContract

open List (Forall₂)
open Traced (Paired)

/-! ## Steps -/

/-- Adds the property of a field to an object, after the interceptors of a pipeline. -/
def ObjectShape.insertIntercepted (s : Scope) (h : Hooks) (owner : TypeDescriptor)
    (field : FieldDescriptor) (p : Property) (o : ObjectShape Schema) : ObjectShape Schema :=
  o.insertProperty field.name (h.interceptField s owner field p).schema
    (h.interceptField s owner field p).required

/-- A relation of objects holds at the start, and is kept where the field of an owner or the
discriminator of a base is added under two pipelines. -/
structure IsKept (s : Scope) (h h' : Hooks) (owners : TypeDescriptor → Prop)
    (r : ObjectShape Schema → ObjectShape Schema → Prop) : Prop where
  empty : r {} {}
  insert : ∀ owner field p o o', owners owner → r o o' →
    r (o.insertIntercepted s h owner field p) (o'.insertIntercepted s h' owner field p)
  addBase : ∀ (b : PolymorphicBase) o o', r o o' → r (b.addTo o) (b.addTo o')

variable {s : Scope} {h h' : Hooks} {owners : TypeDescriptor → Prop}
  {r : ObjectShape Schema → ObjectShape Schema → Prop} {t : TypeDescriptor}

/-- A field has a property under both pipelines or under none, and the interceptors of both get the
same one. -/
theorem fieldProperty_intercepted (owner : TypeDescriptor) (field : FieldDescriptor) :
    Paired (fun p p' => (p = none ∧ p' = none) ∨ ∃ q,
        p = some (h.interceptField s owner field q) ∧
          p' = some (h'.interceptField s owner field q))
      (fieldProperty s h owner field) (fieldProperty s h' owner field) := by
  unfold fieldProperty
  apply (Paired.refl _).bind_same
  intro resolved
  cases resolved with
  | none => exact .report_bind _ _ (.pure (Or.inl ⟨rfl, rfl⟩))
  | some schema => exact .pure (Or.inr ⟨_, rfl, rfl⟩)

theorem IsKept.addFields_paired (hk : IsKept s h h' owners r) {owner : TypeDescriptor}
    (howner : owners owner) (fields : List FieldDescriptor) {o o' : ObjectShape Schema}
    (ho : r o o') : Paired r (addFields s h owner o fields) (addFields s h' owner o' fields) := by
  induction fields generalizing o o' with
  | nil => exact .pure ho
  | cons field rest ih =>
    rw [addFields, addFields]
    by_cases hskip : field.isSkipped = true
    · rw [if_pos hskip, if_pos hskip]
      exact ih ho
    · rw [if_neg hskip, if_neg hskip]
      apply (fieldProperty_intercepted owner field).bind
      rintro p p' (⟨rfl, rfl⟩ | ⟨q, rfl, rfl⟩)
      · exact ih ho
      · exact ih (hk.insert owner field q o o' howner ho)

theorem IsKept.flattenInto_paired (hk : IsKept s h h' owners r) (type : String)
    (ancestors : List TypeDescriptor) (howners : ∀ u ∈ ancestors, owners u)
    {o o' : ObjectShape Schema} (ho : r o o') :
    Paired r (flattenInto s h type o ancestors) (flattenInto s h' type o' ancestors) := by
  induction ancestors generalizing o o' with
  | nil => exact .pure ho
  | cons u rest ih =>
    obtain ⟨hu, hrest⟩ := List.forall_mem_cons.1 howners
    rw [flattenInto, flattenInto]
    apply Paired.report_bind
    apply (hk.addFields_paired hu u.fields ho).bind
    intro next next' hnext
    exact ih hrest hnext

/-- The objects of a class under two pipelines are related. -/
theorem IsKept.classObject_paired (hk : IsKept s h h' owners r) {flattened : List TypeDescriptor}
    (ht : owners t) (howners : ∀ u ∈ flattened, owners u) :
    Paired r (classObject s h t flattened) (classObject s h' t flattened) := by
  have hreversed : ∀ u ∈ flattened.reverse, owners u := fun u hu =>
    howners u (List.mem_reverse.1 hu)
  unfold classObject
  apply (hk.flattenInto_paired t.name flattened.reverse hreversed hk.empty).bind
  intro o o' ho
  apply (hk.addFields_paired ht t.fields ho).bind
  intro object object' hobject
  cases s.polymorphicBase? t.name with
  | none => exact .pure hobject
  | some base => exact .pure (hk.addBase base object object' hobject)

/-! ## Components -/

/-- Two schemas are the same but for an object: the one that they are, or the one that they compose
with a superclass. -/
inductive Schema.Resembles (r : ObjectShape Schema → ObjectShape Schema → Prop) :
    Schema → Schema → Prop
  | same (s : Schema) : Resembles r s s
  | object {o o' : ObjectShape Schema} (ho : r o o') (description : Option String)
      (deprecated : Bool) (access : Option Access) :
      Resembles r ⟨.object o, description, deprecated, access⟩
        ⟨.object o', description, deprecated, access⟩
  | composed {o o' : ObjectShape Schema} (ho : r o o') (parent : String) (value : Option String)
      (description : Option String) (deprecated : Bool) (access : Option Access) :
      Resembles r
        ⟨.composed { allOf := [.reference parent, .object o], value }, description, deprecated,
          access⟩
        ⟨.composed { allOf := [.reference parent, .object o'], value }, description, deprecated,
          access⟩

namespace Schema.Resembles

theorem applyToType {a b : Schema} (hab : Resembles r a b) (ds : Directives) :
    Resembles r (ds.applyToType a) (ds.applyToType b) := by
  cases hab with
  | same => exact .same _
  | object ho description deprecated access => exact .object ho _ _ _
  | composed ho parent value description deprecated access => exact .composed ho parent value _ _ _

theorem eq {a b : Schema} (hab : Resembles Eq a b) : a = b := by
  cases hab with
  | same => rfl
  | object ho description deprecated access => rw [ho]
  | composed ho parent value description deprecated access => rw [ho]

end Schema.Resembles

theorem IsKept.classSchema_paired (hk : IsKept s h h' owners r)
    (howners : ∀ ancestry, (resolveAncestry s t).result = .ok ancestry →
      ∀ u, u = t ∨ u ∈ ancestry.flattened → owners u) :
    Paired (Schema.Resembles r) (classSchema s h t) (classSchema s h' t) := by
  unfold classSchema
  apply (Paired.self (resolveAncestry s t)).bind
  rintro ancestry _ ⟨hancestry, rfl⟩
  have hall := howners ancestry hancestry
  apply (hk.classObject_paired (hall t (Or.inl rfl)) fun u hu => hall u (Or.inr hu)).bind
  intro o o' ho
  cases ancestry.parent with
  | none => exact .pure (.object ho none false none)
  | some parent => exact .pure (.composed ho parent.simpleName _ none false none)

/-- Components under two pipelines are related as the interceptors of schemas relate what
resembles. -/
theorem IsKept.componentOf_paired (hk : IsKept s h h' owners r)
    (howners : ∀ ancestry, (resolveAncestry s t).result = .ok ancestry →
      ∀ u, u = t ∨ u ∈ ancestry.flattened → owners u) {q : Schema → Schema → Prop}
    (hschema : ∀ a b, Schema.Resembles r a b →
      q (h.interceptSchema s t a) (h'.interceptSchema s t b)) :
    Paired q (componentOf s h t) (componentOf s h' t) := by
  have hfinished : ∀ a b, Schema.Resembles r a b →
      q (h.interceptSchema s t (t.directives.applyToType a))
        (h'.interceptSchema s t (t.directives.applyToType b)) := fun a b hab =>
    hschema _ _ (hab.applyToType t.directives)
  unfold componentOf
  by_cases henum : t.isEnum = true
  · rw [if_pos henum, if_pos henum, pure_bind, pure_bind]
    exact .report_bind _ _ (.pure (hfinished _ _ (.same _)))
  · rw [if_neg henum, if_neg henum]
    apply (hk.classSchema_paired howners).bind
    intro a b hab
    exact .report_bind _ _ (.pure (hfinished a b hab))

/-! ## Objects that differ in one property -/

/-- Two tables have the same keys in the same order, and related values under each key. -/
def Assoc.InStep {κ ν : Type} (q : κ → ν → ν → Prop) (a b : Assoc κ ν) : Prop :=
  Forall₂ (fun p p' => p.1 = p'.1 ∧ q p.1 p.2 p'.2) a b

/-- Two objects have the same properties in the same order, and require the same names in the same
order, but for the schema of one property and for whether and where it is required. -/
structure ObjectShape.EqualBut (name : String) (o o' : ObjectShape Schema) : Prop where
  properties : Assoc.InStep (fun other a b => other ≠ name → a = b) o.properties o'.properties
  required : o.required.filter (· ≠ name) = o'.required.filter (· ≠ name)
  discriminator : o.discriminator = o'.discriminator
  additional : o.additional = o'.additional

theorem filter_addName_self (names : List String) (name : String) :
    (addName names name).filter (· ≠ name) = names.filter (· ≠ name) := by
  unfold addName
  by_cases hmem : name ∈ names
  · rw [if_pos hmem]
  · rw [if_neg hmem]
    simp

theorem filter_addName {name other : String} (hne : other ≠ name) (names : List String) :
    (addName names other).filter (· ≠ name) = addName (names.filter (· ≠ name)) other := by
  have hiff : other ∈ names.filter (· ≠ name) ↔ other ∈ names := by simp [hne]
  unfold addName
  by_cases hmem : other ∈ names
  · rw [if_pos hmem, if_pos (hiff.2 hmem)]
  · rw [if_neg hmem, if_neg fun h => hmem (hiff.1 h)]
    simp [hne]

namespace Assoc.InStep

variable {κ ν : Type} [DecidableEq κ] {q : κ → ν → ν → Prop} {a b : Assoc κ ν}

/-- Insertion under one key keeps tables in step. -/
theorem insert (hab : InStep q a b) {k : κ} {v w : ν} (hvw : q k v w) :
    InStep q (a.insert k v) (b.insert k w) := by
  unfold InStep at hab ⊢
  induction hab with
  | nil => exact .cons ⟨rfl, hvw⟩ .nil
  | @cons p p' rest rest' hp hrest ih =>
    obtain ⟨key, x⟩ := p
    obtain ⟨key', y⟩ := p'
    obtain ⟨rfl, hxy⟩ := hp
    rw [Assoc.insert, Assoc.insert]
    by_cases hkey : key = k
    · rw [if_pos hkey, if_pos hkey]
      exact .cons ⟨rfl, hvw⟩ hrest
    · rw [if_neg hkey, if_neg hkey]
      exact .cons ⟨rfl, hxy⟩ ih

theorem contains_eq (hab : InStep q a b) (k : κ) : a.contains k = b.contains k := by
  have hkeys : a.keys = b.keys := by
    unfold InStep at hab
    induction hab with
    | nil => rfl
    | cons hp _ ih => rw [Assoc.keys_cons, Assoc.keys_cons, hp.1, ih]
  rw [Bool.eq_iff_iff, Assoc.contains_iff, Assoc.contains_iff, hkeys]

end Assoc.InStep

namespace ObjectShape.EqualBut

variable {name : String} {o o' : ObjectShape Schema}

/-- A property that is not the same on both sides is the one that may differ. -/
theorem insertProperty (ho : EqualBut name o o') (other : String) {p p' : Property}
    (hp : other ≠ name → p = p') :
    EqualBut name (o.insertProperty other p.schema p.required)
      (o'.insertProperty other p'.schema p'.required) where
  properties := ho.properties.insert fun hne => congrArg Property.schema (hp hne)
  required := by
    show (if p.required then addName o.required other else o.required).filter (· ≠ name) =
      (if p'.required then addName o'.required other else o'.required).filter (· ≠ name)
    by_cases hname : other = name
    · -- it is left out of both sides
      have hleft : ∀ (b : Bool) (names : List String),
          (if b then addName names other else names).filter (· ≠ name) =
            names.filter (· ≠ name) := by
        intro b names
        cases b with
        | false => rfl
        | true =>
          rw [hname]
          exact filter_addName_self names name
      rw [hleft, hleft, ho.required]
    · rw [hp hname]
      by_cases hrequired : p'.required = true
      · rw [if_pos hrequired, if_pos hrequired, filter_addName hname, filter_addName hname,
          ho.required]
      · rw [if_neg hrequired, if_neg hrequired, ho.required]
  discriminator := ho.discriminator
  additional := ho.additional

theorem addTo (ho : EqualBut name o o') (b : PolymorphicBase) :
    EqualBut name (b.addTo o) (b.addTo o') where
  properties := by
    have hcontains : Assoc.contains o.properties b.property =
        Assoc.contains o'.properties b.property := ho.properties.contains_eq b.property
    unfold PolymorphicBase.addTo
    dsimp only
    rw [hcontains]
    by_cases hthere : Assoc.contains o'.properties b.property = true
    · rw [if_pos hthere, if_pos hthere]
      exact ho.properties
    · rw [if_neg hthere, if_neg hthere]
      exact List.rel_append ho.properties (.cons ⟨rfl, fun _ => rfl⟩ .nil)
  required := by
    show (addName o.required b.property).filter (· ≠ name) =
      (addName o'.required b.property).filter (· ≠ name)
    by_cases hname : b.property = name
    · rw [hname, filter_addName_self, filter_addName_self, ho.required]
    · rw [filter_addName hname, filter_addName hname, ho.required]
  discriminator := rfl
  additional := ho.additional

end ObjectShape.EqualBut
end ApiContract
