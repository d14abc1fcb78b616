import Mathlib.Data.List.Perm.Subperm
import ApiContract.Proofs.Bases
/-!
# Polymorphic declarations

Which candidate types can be collected as polymorphic bases, whatever part of a graph they are, and
what is collected. Of each candidate the first polymorphic declaration counts. All its subclasses
are checked, but only those among the candidates are kept.

* `Directives.DeclaresFirst` : the declaration of an element, if it has several.
* `SubtypeDecl.HasTag` : where the discriminator value of a subclass comes from.
* `IsSoundDeclaration` : what a declaration has to satisfy, read off the graph and the candidates.
* `keys_declaredBases` : the names of the bases, in the order of the candidates.
* `declarations_accepted` : sound declarations are accepted and no others, and what becomes of them.
-/

namespace ApiContract

/-! ## The declaration of an element -/

namespace Directives

/-- A polymorphic declaration is the first one among some directives. -/
def DeclaresFirst (ds : Directives) (property : Option String) (subtypes : List SubtypeDecl) :
    Prop :=
  ∃ before after, ds = before ++ .polymorphic property subtypes :: after ∧
    ∀ d ∈ before, ∀ p s, d ≠ .polymorphic p s

/-- Whether there is a polymorphic declaration. -/
def isPolymorphic (ds : Directives) : Bool := ds.any fun d => d matches .polymorphic ..

variable {ds : Directives}

theorem polymorphic?_eq_some_iff {property : Option String} {subtypes : List SubtypeDecl} :
    ds.polymorphic? = some (property, subtypes) ↔ ds.DeclaresFirst property subtypes := by
  rw [polymorphic?, List.findSome?_eq_some_iff]
  constructor
  · rintro ⟨before, d, after, rfl, hd, hbefore⟩
    cases d with
    | polymorphic p s =>
      cases hd
      refine ⟨before, after, rfl, fun d hd p s hp => ?_⟩
      subst hp
      cases hbefore _ hd
    | _ => cases hd
  · rintro ⟨before, after, rfl, hbefore⟩
    refine ⟨before, _, after, rfl, rfl, fun d hd => ?_⟩
    cases d with
    | polymorphic p s => exact absurd rfl (hbefore _ hd p s)
    | _ => rfl

theorem isSome_polymorphic? (ds : Directives) : ds.polymorphic?.isSome = ds.isPolymorphic := by
  rw [polymorphic?, isPolymorphic, List.isSome_findSome?]
  congr 1
  funext d
  cases d <;> rfl

end Directives

/-- The discriminator value of a subclass: the given one, or the simple name if none is given or the
given one is empty. -/
inductive SubtypeDecl.HasTag (d : SubtypeDecl) : String → Prop
  | given {tag : String} (h : d.tag = some tag) (hne : tag ≠ "") : HasTag d tag
  | default (h : ∀ tag, d.tag = some tag → tag = "") : HasTag d (simpleNameOf d.typeName)

theorem SubtypeDecl.hasTag_iff {d : SubtypeDecl} {tag : String} :
    d.HasTag tag ↔ d.resolvedTag = tag := by
  rw [resolvedTag]
  constructor
  · rintro (⟨h, hne⟩ | h)
    · rw [h, nonEmpty?_some, if_neg hne, Option.getD_some]
    · cases ht : d.tag with
      | none => rfl
      | some given => rw [nonEmpty?_some, if_pos (h given ht), Option.getD_none]
  · rintro rfl
    cases ht : d.tag with
    | none => exact .default (by simp [ht])
    | some given =>
      rw [nonEmpty?_some]
      by_cases hne : given = ""
      · rw [if_pos hne]
        exact .default (by simp [ht, hne])
      · rw [if_neg hne]
        exact .given ht hne

/-! ## Sound declarations -/

/-- What a polymorphic declaration has to satisfy within a graph of which some types are candidates.
Subclasses and discriminator values may not be repeated, whether they are candidates or not. -/
structure IsSoundDeclaration (graph : TypeGraph) (types : List TypeDescriptor)
    (property : Option String) (subtypes : List SubtypeDecl) : Prop where
  nonempty : subtypes ≠ []
  not_blank : ∀ p, property = some p → ∃ c ∈ p.toList, Text.isBlank c = false
  known : ∀ d ∈ subtypes, ∃ t ∈ graph.types, t.name = d.typeName
  tags_differ : subtypes.Pairwise fun d e => d.resolvedTag ≠ e.resolvedTag
  classes_differ : subtypes.Pairwise fun d e => d.typeName ≠ e.typeName
  kept : ∃ d ∈ subtypes, ∃ t ∈ types, t.name = d.typeName

/-- Trimming leaves nothing exactly of texts that are all blanks. -/
theorem trim_eq_nil_iff {s : List Char} :
    Text.trim s = [] ↔ ∀ c ∈ s, Text.isBlank c = true := by
  constructor
  · intro h
    obtain ⟨before, hbefore, hstart⟩ := Text.exists_trimStart s
    obtain ⟨after, hafter, hend⟩ := Text.exists_trimEnd (Text.trimStart s)
    rw [← Text.trim, h, List.nil_append] at hend
    rw [hstart, hend]
    exact List.forall_mem_append.2 ⟨hbefore, hafter⟩
  · intro h
    exact Text.trim_append_of_blanks (s := []) (by decide) h

theorem isBlankProperty_eq_false_iff {property : Option String} :
    isBlankProperty property = false ↔
      ∀ p, property = some p → ∃ c ∈ p.toList, Text.isBlank c = false := by
  cases property with
  | none => simp [isBlankProperty]
  | some p =>
    have hblank : Text.trimmed p = "" ↔ ∀ c ∈ p.toList, Text.isBlank c = true := by
      rw [← trim_eq_nil_iff, Text.trimmed, String.ofList_eq_empty_iff]
    rw [isBlankProperty, Option.any_some, beq_eq_false_iff_ne, Ne, hblank]
    simp

theorem isSoundDeclaration_iff {graph : TypeGraph} {types : List TypeDescriptor}
    {property : Option String} {subtypes : List SubtypeDecl} :
    IsSoundDeclaration graph types property subtypes ↔
      IsWellFormed graph (types.map (·.name)) property subtypes := by
  have hknown : ∀ name, graph.contains name = true ↔ ∃ t ∈ graph.types, t.name = name := by
    intro name
    rw [TypeGraph.contains, TypeGraph.get?, List.find?_isSome]
    simp
  have htags : (subtypes.map (·.resolvedTag)).Nodup ↔
      subtypes.Pairwise fun d e => d.resolvedTag ≠ e.resolvedTag := List.pairwise_map
  have hclasses : (subtypes.map (·.typeName)).Nodup ↔
      subtypes.Pairwise fun d e => d.typeName ≠ e.typeName := List.pairwise_map
  constructor
  · rintro ⟨-, hblank, hall, ht, hc, hkept⟩
    exact ⟨isBlankProperty_eq_false_iff.2 hblank, fun d hd => (hknown _).2 (hall d hd), htags.2 ht,
      hclasses.2 hc, by simpa using hkept⟩
  · rintro ⟨hblank, hall, ht, hc, hkept⟩
    obtain ⟨e, he, -⟩ := id hkept
    exact ⟨List.ne_nil_of_mem he, isBlankProperty_eq_false_iff.1 hblank,
      fun d hd => (hknown _).1 (hall d hd), htags.1 ht, hclasses.1 hc, by simpa using hkept⟩

/-! ## The bases of some candidates -/

/-- Types taken out of a graph in any order have distinct names. -/
theorem nodup_names_of_subperm {graph : TypeGraph} {types : List TypeDescriptor}
    (h : types.Subperm graph.types) : (types.map (·.name)).Nodup := by
  obtain ⟨chosen, hperm, hsub⟩ := h
  exact (hperm.map _).nodup_iff.1 ((hsub.map _).nodup graph.nodup_names)

theorem keys_declaredBases (names : List String) (types : List TypeDescriptor) :
    (declaredBases names types).keys =
      (types.filter (·.directives.isPolymorphic)).map (·.name) := by
  induction types with
  | nil => rfl
  | cons t rest ih =>
    rw [declaredBases, List.filterMap_cons, List.filter_cons, ← Directives.isSome_polymorphic?,
      declaredBase?]
    cases t.directives.polymorphic? with
    | none => exact ih
    | some declaration => exact congrArg (t.name :: ·) ih

/-- Whatever types of a graph are taken as candidates, they are accepted exactly if the first
polymorphic declaration of each of them is sound. The bases are then the candidates with a
polymorphic declaration, in their order, each with its property and with the declared subclasses
that are candidates, in order of declaration and with their discriminator values. -/
theorem declarations_accepted {graph : TypeGraph} {types : List TypeDescriptor}
    (hsub : types.Subperm graph.types) :
    ((∃ bases, (resolvePolymorphism graph types).result = .ok bases) ↔
      ∀ t ∈ types, ∀ property subtypes, t.directives.DeclaresFirst property subtypes →
        IsSoundDeclaration graph types property subtypes) ∧
    (∀ bases, (resolvePolymorphism graph types).result = .ok bases →
      bases.keys = (types.filter (·.directives.isPolymorphic)).map (·.name) ∧
      ∀ t ∈ types, ∀ property subtypes, t.directives.DeclaresFirst property subtypes →
        ∃ b, bases.get? t.name = some b ∧
          b.property = property.getD defaultDiscriminatorProperty ∧
          b.classes = (subtypes.filter fun d => d.typeName ∈ types.map (·.name)).map
            fun d => (d.typeName, d.resolvedTag)) ∧
    ∀ d : SubtypeDecl, d.HasTag d.resolvedTag := by
  have hn := nodup_names_of_subperm hsub
  refine ⟨?_, fun bases hbases => ?_, fun d => SubtypeDecl.hasTag_iff.2 rfl⟩
  · simp only [result_resolvePolymorphism_eq_ok hn, exists_and_left, exists_eq, and_true,
      Directives.polymorphic?_eq_some_iff, isSoundDeclaration_iff]
  · obtain ⟨-, rfl⟩ := (result_resolvePolymorphism_eq_ok hn).1 hbases
    have hkeys : (declaredBases (types.map (·.name)) types).keys.Nodup :=
      (keys_declaredBases_sublist types).nodup hn
    refine ⟨keys_declaredBases _ types, fun t ht property subtypes hfirst => ?_⟩
    have hdeclared : declaredBase? (types.map (·.name)) t =
        some ⟨property.getD defaultDiscriminatorProperty,
          keptSubtypes (types.map (·.name)) subtypes⟩ := by
      rw [declaredBase?, Directives.polymorphic?_eq_some_iff.2 hfirst]
      rfl
    exact ⟨_, Assoc.get?_of_mem hkeys (mem_declaredBases.2 ⟨t, ht, rfl, hdeclared⟩), rfl, rfl⟩

/-- A boat that is a ferry, a tug or a wreck. A later declaration does not count. -/
def boatClass : TypeDescriptor where
  name := "harbour.Boat"
  directives := [
    .polymorphic (some "kind")
      [⟨"harbour.Ferry", some ""⟩, ⟨"harbour.Wreck", some "sunk"⟩, ⟨"harbour.Tug", some "tug"⟩],
    .polymorphic none []]

/-- A ferry. -/
def ferryClass : TypeDescriptor := { name := "harbour.Ferry", superclass := some "harbour.Boat" }

/-- A tug. -/
def tugClass : TypeDescriptor := { name := "harbour.Tug", superclass := some "harbour.Boat" }

/-- A base and its subclasses. -/
def harbourGraph : TypeGraph where
  types := [boatClass, ferryClass, { name := "harbour.Wreck" }, tugClass]
  nodup_names := by decide +kernel

/-- Wrecks are no candidates, so they are checked and left out. -/
theorem declarations_accepted_harbour :
    List.Subperm [tugClass, boatClass, ferryClass] harbourGraph.types ∧
      ∃ bases, (resolvePolymorphism harbourGraph [tugClass, boatClass, ferryClass]).result =
          .ok bases ∧ bases.keys = ["harbour.Boat"] ∧
        ∃ b, bases.get? "harbour.Boat" = some b ∧ b.property = "kind" ∧
          b.classes = [("harbour.Ferry", "Ferry"), ("harbour.Tug", "tug")] := by
  have hsub : List.Subperm [tugClass, boatClass, ferryClass] harbourGraph.types :=
    List.Nodup.subperm (by decide +kernel) (by decide +kernel)
  obtain ⟨bases, hbases⟩ := exists_eq_ok_of_toBool
    (show (resolvePolymorphism harbourGraph [tugClass, boatClass, ferryClass]).result.toBool =
      true by decide +kernel)
  obtain ⟨hkeys, hget⟩ := (declarations_accepted hsub).2.1 bases hbases
  refine ⟨hsub, bases, hbases, hkeys.trans (by decide +kernel), ?_⟩
  obtain ⟨b, hb, hproperty, hclasses⟩ := hget boatClass (by simp) _ _ ⟨[], _, rfl, nofun⟩
  exact ⟨b, hb, hproperty, hclasses.trans (by decide +kernel)⟩

end ApiContract
