import ApiContract.Proofs.DistinctNames
import ApiContract.Proofs.EffectiveNames
/-!
# Shadowed fields

A class may declare a field that a copied superclass declares as well. The object of the class then
has one property for both: it stands where the farthest superclass puts it, has the schema of the
declaration that is nearest to the class, and is required if any of them requires it.

* `IsFlattened` : the superclasses that are copied into a class, without reference to the walk.
* `ObjectShape.IsMadeOf` : the names, the schemas and the required names of an object, from a list
  of fields in which names may be repeated.
* `isMadeOf_insertFields`, `ObjectShape.IsMadeOf.addTo` : each step of making an object keeps to it.
* `class_contents` : the object of every class is made of the fields of its copied superclasses and
  its own, in this order.
-/

namespace ApiContract

/-! ## Copied superclasses -/

/-- A superclass whose fields are copied: it is in the graph, and neither a root type nor a
component. -/
structure IsCopied (scope : Scope) (t p : TypeDescriptor) : Prop where
  superclass : t.superclass = some p.name
  known : p ∈ scope.graph.types
  not_root : scope.isRootType p.name = false
  not_component : scope.isComponent p.name = false

/-- The superclasses that are copied into a class, the nearest first: its superclass if that is to
be copied, and those that are copied into the superclass. -/
inductive IsFlattened (scope : Scope) : TypeDescriptor → List TypeDescriptor → Prop
  | last {t : TypeDescriptor} (h : ∀ p, ¬ IsCopied scope t p) : IsFlattened scope t []
  | further {t p : TypeDescriptor} {ancestors : List TypeDescriptor} (h : IsCopied scope t p)
      (hp : IsFlattened scope p ancestors) : IsFlattened scope t (p :: ancestors)

variable {scope : Scope} {hooks : Hooks} {t : TypeDescriptor}

theorem IsCopied.unique {p q : TypeDescriptor} (hp : IsCopied scope t p) (hq : IsCopied scope t q) :
    p = q :=
  TypeGraph.eq_of_name_eq hp.known hq.known
    (Option.some.inj (hp.superclass.symm.trans hq.superclass))

theorem IsFlattened.unique {ancestors ancestors' : List TypeDescriptor}
    (h : IsFlattened scope t ancestors) (h' : IsFlattened scope t ancestors') :
    ancestors = ancestors' := by
  induction h generalizing ancestors' with
  | last hnone =>
    cases h' with
    | last => rfl
    | further hp _ => exact absurd hp (hnone _)
  | further hp _ ih =>
    cases h' with
    | last hnone => exact absurd hp (hnone _)
    | further hq hrest =>
      obtain rfl := hp.unique hq
      rw [ih hrest]

/-- A walk that ends collects the superclasses to copy. -/
theorem isFlattened_of_walkAncestry {type : String} {met : List String}
    {superclass : Option String} {ancestry : Ancestry}
    (h : (walkAncestry scope type met superclass).result = .ok ancestry)
    (ht : t.superclass = superclass) : IsFlattened scope t ancestry.flattened := by
  fun_induction walkAncestry scope type met superclass generalizing t ancestry with
  | case1 met =>
    obtain rfl := Except.ok.inj h
    refine .last fun p hp => ?_
    cases hp.superclass.symm.trans ht
  | case2 met name hroot =>
    obtain rfl := Except.ok.inj h
    refine .last fun p hp => ?_
    obtain rfl := Option.some.inj (hp.superclass.symm.trans ht)
    cases hroot.symm.trans hp.not_root
  | case3 met name hroot hmet => cases h
  | case4 met name hroot hmet hlook =>
    obtain rfl := Except.ok.inj h
    refine .last fun p hp => ?_
    obtain rfl := Option.some.inj (hp.superclass.symm.trans ht)
    cases hlook.symm.trans (TypeGraph.get?_of_mem hp.known)
  | case5 met name hroot hmet p hlook hcomp =>
    obtain rfl := Except.ok.inj h
    refine .last fun q hq => ?_
    obtain rfl := Option.some.inj (hq.superclass.symm.trans ht)
    cases hcomp.symm.trans hq.not_component
  | case6 met name hroot hmet p hlook hcomp hless ih =>
    obtain ⟨further, hfurther, hout⟩ := Traced.result_bind_eq_ok.1 h
    obtain rfl := Except.ok.inj hout
    obtain ⟨hp, rfl⟩ := TypeGraph.get?_eq_some_iff.1 hlook
    exact .further ⟨ht, hp, Bool.eq_false_iff.2 hroot, Bool.eq_false_iff.2 hcomp⟩ (ih hfurther rfl)

/-! ## Objects made of fields -/

/-- Some names and, unless it is among them, the discriminator property of a base. -/
def withDiscriminator (base : Option PolymorphicBase) (names : List String) : List String :=
  match base with
  | none => names
  | some b => addName names b.property

/-- An object has the distinct names of some fields, in order of first occurrence. Each has the
schema of the last field with the name, refined by the directives of that field, and is required if
some field with the name is. The discriminator property of a base comes last and is a text, unless a
field has its name. -/
structure ObjectShape.IsMadeOf (scope : Scope) (fields : List FieldDescriptor)
    (base : Option PolymorphicBase) (o : ObjectShape Schema) : Prop where
  names : o.propertyNames = withDiscriminator base (fields.map (·.name)).eraseDups
  last_declaration : ∀ before f after, fields = before ++ f :: after →
    (∀ g ∈ after, g.name ≠ f.name) →
    ∃ s, (schemaOf scope .polymorphic f.type).result = .ok (some s) ∧
      Assoc.get? o.properties f.name = some (f.directives.applyTo s)
  discriminator : ∀ b, base = some b → b.property ∉ fields.map (·.name) →
    Assoc.get? o.properties b.property = some .text
  required : o.required =
    withDiscriminator base ((fields.filter (·.isRequired)).map (·.name)).eraseDups

theorem FieldDescriptor.schema_eq {f : FieldDescriptor} {s : Schema}
    (hs : (schemaOf scope .polymorphic f.type).result = .ok (some s)) :
    f.schema scope = f.directives.applyTo s := by
  rw [FieldDescriptor.schema, ← (result_schemaOf_eq_ok.1 hs).2, Option.getD_some]

/-- Inserting plain fields one by one makes an object of those that have a schema. -/
theorem isMadeOf_insertFields {fields : List FieldDescriptor} (hplain : ∀ f ∈ fields, f.IsPlain) :
    (ObjectShape.insertFields scope {} fields).IsMadeOf scope (fields.filter (·.isMapped))
      none := by
  rw [insertFields_eq_insertAll]
  constructor
  · rw [ObjectShape.propertyNames_insertAll, List.map_map]
    exact foldl_addName _
  · intro before f after hfields hlast
    have hf : f ∈ fields.filter (·.isMapped) := by
      rw [hfields]
      exact List.mem_append_right _ (List.mem_cons_self ..)
    obtain ⟨hmem, hmapped⟩ := List.mem_filter.1 hf
    obtain ⟨-, s, hs⟩ := (isMapped_iff (hplain f hmem)).1 hmapped
    refine ⟨s, hs, ?_⟩
    rw [hfields, List.map_append, List.map_cons, ← FieldDescriptor.schema_eq hs]
    refine ObjectShape.get?_insertAll_of_last (p := (f.name, f.property scope)) {} ?_
    exact List.forall_mem_map.2 hlast
  · intro b hb
    cases hb
  · rw [ObjectShape.required_insertAll, List.filter_map, List.map_map]
    exact foldl_addName _

theorem get?_properties_addTo (b : PolymorphicBase) (o : ObjectShape Schema) (name : String) :
    Assoc.get? (b.addTo o).properties name =
      (Assoc.get? o.properties name).or (if b.property = name then some .text else none) := by
  have hproperties : (b.addTo o).properties = if Assoc.contains o.properties b.property then
      o.properties else o.properties ++ [(b.property, .text)] := rfl
  rw [hproperties]
  split
  · next hthere =>
    by_cases hname : b.property = name
    · obtain ⟨s, hs⟩ := Option.isSome_iff_exists.1 hthere
      rw [← hname, hs, Option.some_or]
    · rw [if_neg hname, Option.or_none]
  · rw [Assoc.get?_append]
    simp [Assoc.get?]

/-- The discriminator property of a base is added behind the fields. -/
theorem ObjectShape.IsMadeOf.addTo {fields : List FieldDescriptor} {o : ObjectShape Schema}
    (h : o.IsMadeOf scope fields none) (b : PolymorphicBase) :
    (b.addTo o).IsMadeOf scope fields (some b) where
  names := by
    rw [propertyNames_addTo, h.names]
    rfl
  last_declaration := by
    intro before f after hfields hlast
    obtain ⟨s, hs, hget⟩ := h.last_declaration before f after hfields hlast
    exact ⟨s, hs, by rw [get?_properties_addTo, hget, Option.some_or]⟩
  discriminator := by
    intro b' hb hnew
    obtain rfl := Option.some.inj hb
    have hnone : Assoc.get? o.properties b.property = none := by
      rw [Assoc.get?_eq_none_iff, ← ObjectShape.propertyNames, h.names]
      simpa [withDiscriminator] using hnew
    rw [get?_properties_addTo, hnone, if_pos rfl, Option.none_or]
  required := by
    show addName o.required b.property = _
    rw [h.required]
    rfl

theorem isMadeOf_objectOf {flattened : List TypeDescriptor}
    (hplain : ∀ f ∈ declaredFields flattened t, f.IsPlain) :
    (objectOf scope flattened t).IsMadeOf scope
      ((declaredFields flattened t).filter (·.isMapped)) (scope.polymorphicBase? t.name) := by
  rw [objectOf]
  cases scope.polymorphicBase? t.name with
  | none => exact isMadeOf_insertFields hplain
  | some b => exact (isMadeOf_insertFields hplain).addTo b

/-- Without interceptors the object of a class is made of the fields of the copied superclasses,
from the farthest on, and of its own fields after them, as far as they are not skipped and have a
schema. A polymorphic base has its discriminator property besides. -/
theorem class_contents (hz : hooks.interceptorCount = 0) (ht : t.isEnum = false) {node : Schema}
    (h : (componentOf scope hooks t).result = .ok node) :
    ∃ ancestors o, IsFlattened scope t ancestors ∧ node.ownObject? = some o ∧
      (∀ owner, owner = t ∨ owner ∈ ancestors → ∀ f ∈ owner.fields,
        (f.isMapped = true ↔ f.isSkipped = false ∧
          ∃ s, (schemaOf scope .polymorphic f.type).result = .ok (some s))) ∧
      o.IsMadeOf scope ((declaredFields ancestors t).filter (·.isMapped))
        (scope.polymorphicBase? t.name) := by
  rcases (result_componentOf_eq_ok hz).1 h with ⟨henum, -⟩ | ⟨-, ancestry, ha, hplain, rfl⟩
  · cases henum.symm.trans ht
  refine ⟨ancestry.flattened, objectOf scope ancestry.flattened t,
    isFlattened_of_walkAncestry ha rfl, ?_, fun owner howner f hf => ?_, isMadeOf_objectOf hplain⟩
  · rw [ownObject?_of_shape (Schema.shape_applyToType _ _), ownObject?_classNode]
  · exact isMapped_iff (hplain f (mem_declaredFields.2 ⟨owner, howner, hf⟩))

/-- An entity has an identifier, which it requires, and a rank. -/
def entityClass : TypeDescriptor where
  name := "core.Entity"
  fields := [
    { name := "id", type := .text, directives := [.notNull] },
    { name := "rank", type := .unboxed .int32 }]

/-- What has a title has another identifier. -/
def titledClass : TypeDescriptor where
  name := "core.Titled"
  superclass := some "core.Entity"
  fields := [{ name := "title", type := .text }, { name := "id", type := .uuid }]

/-- The rank of a film is a text. -/
def filmRank : FieldDescriptor where
  name := "rank"
  type := .text
  directives := [.size none (some 8)]

/-- A film has another rank, a field without schema, and fields that are skipped. -/
def filmClass : TypeDescriptor where
  name := "cinema.Film"
  superclass := some "core.Titled"
  fields := [
    filmRank,
    { name := "reel", type := .foreign "Reel" },
    { name := "draft", type := .text, directives := [.ignore] },
    { name := "count", type := .unboxed .int32, isStatic := true },
    { name := "budget", type := .text, directives := [.exclude] }]

/-- Films are a polymorphic base, and no type is a component. -/
def filmScope : Scope where
  graph := { types := [entityClass, titledClass, filmClass], nodup_names := by decide +kernel }
  namespaces := ⟨[]⟩
  polymorphism := some [("cinema.Film", ⟨"genre", [("cinema.Western", "western")]⟩)]

/-- Names stand where the entity has them, schemas are those of the nearest declaration, and the
identifier and the rank are required because the entity requires them. -/
theorem class_contents_film :
    Hooks.none.interceptorCount = 0 ∧ filmClass.isEnum = false ∧
      ∃ node, (componentOf filmScope Hooks.none filmClass).result = .ok node ∧
        ∃ o, node.ownObject? = some o ∧ o.propertyNames = ["id", "rank", "title", "genre"] ∧
          o.required = ["id", "rank", "genre"] ∧
          Assoc.get? o.properties "rank" = some { shape := .string { maxLength := some 8 } } ∧
          Assoc.get? o.properties "genre" = some .text := by
  obtain ⟨node, hnode⟩ := exists_eq_ok_of_toBool
    (show (componentOf filmScope Hooks.none filmClass).result.toBool = true by decide +kernel)
  have hz : Hooks.none.interceptorCount = 0 := rfl
  obtain ⟨ancestors, o, hflat, ho, -, hmade⟩ :=
    class_contents hz (show filmClass.isEnum = false from rfl) hnode
  have hcopied : IsFlattened filmScope filmClass [titledClass, entityClass] :=
    .further ⟨rfl, by simp [filmScope], rfl, rfl⟩ <|
      .further ⟨rfl, by simp [filmScope], rfl, rfl⟩ <| .last fun p hp => nomatch hp.superclass
  obtain rfl := hflat.unique hcopied
  refine ⟨hz, rfl, node, hnode, o, ho, hmade.names.trans (by decide +kernel),
    hmade.required.trans (by decide +kernel), ?_, ?_⟩
  · obtain ⟨s, hs, hget⟩ := hmade.last_declaration
      (entityClass.fields ++ titledClass.fields) filmRank [] (by decide +kernel) nofun
    obtain rfl : Schema.text = s := Option.some.inj (Except.ok.inj hs)
    exact hget
  · exact hmade.discriminator _ rfl (by decide +kernel)

end ApiContract
