import Mathlib.Data.List.Induction
import ApiContract.Hooks
import ApiContract.Proofs.Table
/-!
# Insertion of properties

Objects are made by inserting properties, and each name occurs once among the properties and once
among the required names, however often it is inserted. What is there already keeps its place: the
names after an insertion begin with the names before it.

* `ObjectShape.HasDistinctNames` : no name occurs twice.
* `ObjectShape.insertAll` : inserts properties in turn.
* `ObjectShape.keys_prefix_insertAll`, `ObjectShape.required_prefix_insertAll` : places are kept, and
  no name ceases to be required.
* `ObjectShape.propertyNames_insertAll`, `ObjectShape.required_insertAll` : names and required names
  in the order of their first insertion.
* `ObjectShape.get?_insertAll` : the last schema of a name counts.
* `ObjectShape.mem_required_insertAll` : what is required was required before or in some insertion.
-/

namespace ApiContract

theorem nodup_addName {names : List String} (h : names.Nodup) (name : String) :
    (addName names name).Nodup := by
  unfold addName
  by_cases hmem : name ∈ names
  · rwa [if_pos hmem]
  · rw [if_neg hmem]
    simpa [List.nodup_append] using ⟨h, fun a ha heq => hmem (heq ▸ ha)⟩

/-- Names that are added one by one are kept in the order of their first occurrence. -/
theorem addName_eraseDups (names : List String) (name : String) :
    addName names.eraseDups name = (names ++ [name]).eraseDups := by
  rw [List.eraseDups_append, addName]
  by_cases h : name ∈ names
  · simp [h, List.removeAll]
  · simp [h, List.removeAll, List.eraseDups_cons]

theorem foldl_addName (names : List String) : names.foldl addName [] = names.eraseDups := by
  induction names using List.reverseRecOn with
  | nil => rfl
  | append_singleton names name ih =>
    rw [List.foldl_append, ih]
    exact addName_eraseDups names name

theorem prefix_addName (names : List String) (name : String) : names <+: addName names name := by
  unfold addName
  split
  · exact List.prefix_refl names
  · exact List.prefix_append names [name]

namespace ObjectShape

/-- The names of the properties of an object. -/
def propertyNames (o : ObjectShape Schema) : List String := Assoc.keys o.properties

/-- No name occurs twice among the properties or among the required names. -/
structure HasDistinctNames (o : ObjectShape Schema) : Prop where
  nodup_properties : o.propertyNames.Nodup
  nodup_required : o.required.Nodup

/-- Inserts properties in turn. -/
def insertAll (o : ObjectShape Schema) (ps : List (String × Property)) : ObjectShape Schema :=
  ps.foldl (fun o p => o.insertProperty p.1 p.2.schema p.2.required) o

variable {o : ObjectShape Schema} {name : String}

/-! ## One property -/

theorem hasDistinctNames_empty : HasDistinctNames {} := ⟨List.nodup_nil, List.nodup_nil⟩

theorem HasDistinctNames.insertProperty (h : o.HasDistinctNames) (name : String) (s : Schema)
    (required : Bool) : (o.insertProperty name s required).HasDistinctNames where
  nodup_properties := Assoc.nodup_keys_insert h.nodup_properties name s
  nodup_required := by
    cases required with
    | false => exact h.nodup_required
    | true => exact nodup_addName h.nodup_required name

theorem HasDistinctNames.require (h : o.HasDistinctNames) (name : String) :
    (o.require name).HasDistinctNames :=
  ⟨h.nodup_properties, nodup_addName h.nodup_required name⟩

theorem propertyNames_insertProperty (o : ObjectShape Schema) (name : String) (s : Schema)
    (required : Bool) :
    (o.insertProperty name s required).propertyNames =
      if name ∈ o.propertyNames then o.propertyNames else o.propertyNames ++ [name] :=
  Assoc.keys_insert o.properties name s

theorem propertyNames_prefix_insertProperty (o : ObjectShape Schema) (name : String) (s : Schema)
    (required : Bool) : o.propertyNames <+: (o.insertProperty name s required).propertyNames := by
  rw [propertyNames_insertProperty]
  split
  · exact List.prefix_refl o.propertyNames
  · exact List.prefix_append o.propertyNames [name]

theorem required_prefix_insertProperty (o : ObjectShape Schema) (name : String) (s : Schema)
    (required : Bool) : o.required <+: (o.insertProperty name s required).required := by
  cases required with
  | false => exact List.prefix_refl o.required
  | true => exact prefix_addName o.required name

theorem mem_required_insertProperty {s : Schema} {required : Bool} {other : String} :
    other ∈ (o.insertProperty name s required).required ↔
      other ∈ o.required ∨ name = other ∧ required = true := by
  cases required with
  | false => simp [ObjectShape.insertProperty]
  | true => simp [ObjectShape.insertProperty, mem_addName]

/-! ## Properties in turn -/

@[simp] theorem insertAll_nil (o : ObjectShape Schema) : o.insertAll [] = o := rfl

@[simp] theorem insertAll_cons (o : ObjectShape Schema) (p : String × Property)
    (ps : List (String × Property)) :
    o.insertAll (p :: ps) = (o.insertProperty p.1 p.2.schema p.2.required).insertAll ps := rfl

theorem insertAll_append (o : ObjectShape Schema) (ps qs : List (String × Property)) :
    o.insertAll (ps ++ qs) = (o.insertAll ps).insertAll qs := List.foldl_append ..

theorem HasDistinctNames.insertAll (h : o.HasDistinctNames) (ps : List (String × Property)) :
    (o.insertAll ps).HasDistinctNames := by
  induction ps generalizing o with
  | nil => exact h
  | cons p rest ih => exact ih (h.insertProperty p.1 p.2.schema p.2.required)

theorem keys_prefix_insertAll (o : ObjectShape Schema) (ps : List (String × Property)) :
    o.propertyNames <+: (o.insertAll ps).propertyNames := by
  induction ps generalizing o with
  | nil => exact List.prefix_refl o.propertyNames
  | cons p rest ih => exact (propertyNames_prefix_insertProperty o p.1 _ _).trans (ih _)

theorem required_prefix_insertAll (o : ObjectShape Schema) (ps : List (String × Property)) :
    o.required <+: (o.insertAll ps).required := by
  induction ps generalizing o with
  | nil => exact List.prefix_refl o.required
  | cons p rest ih => exact (required_prefix_insertProperty o p.1 p.2.schema _).trans (ih _)

/-- The properties are those from before and those that are inserted. -/
theorem properties_insertAll (o : ObjectShape Schema) (ps : List (String × Property)) :
    (o.insertAll ps).properties = (ps.map fun p => (p.1, p.2.schema)).foldl
      (fun t p => Assoc.insert t p.1 p.2) o.properties := by
  induction ps generalizing o with
  | nil => rfl
  | cons p rest ih => exact ih _

theorem propertyNames_insertAll (o : ObjectShape Schema) (ps : List (String × Property)) :
    (o.insertAll ps).propertyNames = (ps.map Prod.fst).foldl addName o.propertyNames := by
  induction ps generalizing o with
  | nil => rfl
  | cons p rest ih =>
    rw [insertAll_cons, ih, propertyNames_insertProperty]
    rfl

theorem required_insertAll (o : ObjectShape Schema) (ps : List (String × Property)) :
    (o.insertAll ps).required =
      ((ps.filter (·.2.required)).map Prod.fst).foldl addName o.required := by
  induction ps generalizing o with
  | nil => rfl
  | cons p rest ih =>
    rw [insertAll_cons, ih, ObjectShape.insertProperty, List.filter_cons]
    cases p.2.required with
    | false => rfl
    | true => rfl

theorem mem_propertyNames_insertAll {ps : List (String × Property)} :
    name ∈ (o.insertAll ps).propertyNames ↔ name ∈ o.propertyNames ∨ ∃ p ∈ ps, p.1 = name := by
  rw [propertyNames, properties_insertAll, Assoc.mem_keys_foldl_insert]
  simp [propertyNames]

/-- Of several schemas for a name the last one counts, and other names keep theirs. -/
theorem get?_insertAll (o : ObjectShape Schema) (ps : List (String × Property)) (name : String) :
    Assoc.get? (o.insertAll ps).properties name =
      ((ps.reverse.find? (·.1 == name)).map (·.2.schema)).or (Assoc.get? o.properties name) := by
  induction ps generalizing o with
  | nil => rfl
  | cons p rest ih =>
    rw [insertAll_cons, ih, List.reverse_cons, List.find?_append]
    have hone : Assoc.get? (o.insertProperty p.1 p.2.schema p.2.required).properties name =
        if p.1 = name then some p.2.schema else Assoc.get? o.properties name :=
      Assoc.get?_insert o.properties p.1 name p.2.schema
    rw [hone]
    cases rest.reverse.find? (·.1 == name) with
    | some q => rfl
    | none =>
      by_cases hname : p.1 = name
      · simp [hname]
      · simp [hname]

/-- A name has the schema with which it is inserted last. -/
theorem get?_insertAll_of_last (o : ObjectShape Schema) {before after : List (String × Property)}
    {p : String × Property} (hlast : ∀ q ∈ after, q.1 ≠ p.1) :
    Assoc.get? (o.insertAll (before ++ p :: after)).properties p.1 = some p.2.schema := by
  have hafter : after.reverse.find? (·.1 == p.1) = none := by
    rw [List.find?_eq_none]
    intro q hq
    simpa using hlast q (List.mem_reverse.1 hq)
  rw [get?_insertAll, List.reverse_append, List.reverse_cons, List.append_assoc, List.find?_append,
    hafter]
  simp

/-- A name is required if it was required before or is required where it is inserted. -/
theorem mem_required_insertAll {ps : List (String × Property)} :
    name ∈ (o.insertAll ps).required ↔
      name ∈ o.required ∨ ∃ p ∈ ps, p.1 = name ∧ p.2.required = true := by
  induction ps generalizing o with
  | nil => simp
  | cons p rest ih =>
    rw [insertAll_cons, ih, mem_required_insertProperty, List.exists_mem_cons_iff, or_assoc]

/-- The discriminator and the schema of other properties are left alone. -/
theorem discriminator_insertAll (o : ObjectShape Schema) (ps : List (String × Property)) :
    (o.insertAll ps).discriminator = o.discriminator ∧
      (o.insertAll ps).additional = o.additional := by
  induction ps generalizing o with
  | nil => exact ⟨rfl, rfl⟩
  | cons p rest ih => exact ih _

end ObjectShape
end ApiContract
