import ApiContract.Graph.Basic
import ApiContract.Trace
/-!
# Polymorphic bases

A type may declare itself a polymorphic base: it lists subclasses and names the property whose value
tells them apart. `resolvePolymorphism` checks these declarations and collects them before any
schema is built, so that a field of a base type can be described by its subclasses.

* `PolymorphicBase` : the property, and the discriminator value of each subclass.
* `PolymorphicBase.mapping` : the component for each discriminator value.
* `resolveBase` : checks one declaration. All subclasses are checked; only those that become
  components are kept.
-/

namespace ApiContract

/-- The property of a base that names no other. -/
def defaultDiscriminatorProperty : String := "type"

/-- A polymorphic base: the discriminator property, and the discriminator value of each subclass in
order of declaration. -/
structure PolymorphicBase where
  property : String
  classes : Assoc String String
deriving DecidableEq, Repr, Inhabited

/-- The polymorphic bases of a generation, by name. -/
abbrev PolymorphismMap := Assoc String PolymorphicBase

namespace PolymorphicBase

/-- The discriminator value of a subclass. -/
def tagOf? (b : PolymorphicBase) (subclass : String) : Option String := b.classes.get? subclass

/-- The component for each discriminator value. -/
def mapping (b : PolymorphicBase) : Assoc String String :=
  Assoc.ofPairs (b.classes.map fun (subclass, tag) => (tag, simpleNameOf subclass))

/-- The components of the subclasses. -/
def components (b : PolymorphicBase) : List String := b.classes.keys.map simpleNameOf

end PolymorphicBase

/-- The discriminator value of a declared subclass: the given one unless it is empty, else the
simple name of the subclass. -/
def SubtypeDecl.resolvedTag (d : SubtypeDecl) : String :=
  (nonEmpty? d.tag).getD (simpleNameOf d.typeName)

/-- Checks declared subclasses in turn and collects those among the candidates. -/
def resolveSubtypes (graph : TypeGraph) (candidates : List String) (base : String)
    (seenTags seenClasses : List String) (classes : Assoc String String) :
    List SubtypeDecl → Traced (Assoc String String)
  | [] => pure classes
  | d :: rest => do
    let refuse (problem : ConfigurationProblem) : Traced (Assoc String String) :=
      .fail (.configuration problem)
    let tag := d.resolvedTag
    if !graph.contains d.typeName then refuse (.unknownSubclass base d.typeName)
    else if tag ∈ seenTags then refuse (.repeatedTag base tag)
    else if d.typeName ∈ seenClasses then refuse (.repeatedSubclass base d.typeName)
    else if d.typeName ∈ candidates then
      resolveSubtypes graph candidates base (tag :: seenTags) (d.typeName :: seenClasses)
        (classes.insert d.typeName tag) rest
    else do
      Traced.report (.subclassLeftOut d.typeName base)
      resolveSubtypes graph candidates base (tag :: seenTags) (d.typeName :: seenClasses) classes
        rest

/-- Whether a declared discriminator property is blank. -/
def isBlankProperty (property : Option String) : Bool := property.any (Text.trimmed · == "")

/-- Checks the polymorphic declaration of a type, if it has one. -/
def resolveBase (graph : TypeGraph) (candidates : List String) (t : TypeDescriptor) :
    Traced (Option PolymorphicBase) :=
  match t.directives.polymorphic? with
  | none => pure none
  | some (property, subtypes) =>
    if subtypes.isEmpty then .fail (.configuration (.noSubclasses t.name))
    else if isBlankProperty property then .fail (.configuration (.emptyDiscriminator t.name))
    else do
      let classes ← resolveSubtypes graph candidates t.name [] [] [] subtypes
      if classes.isEmpty then .fail (.configuration (.noSubclassLeft t.name))
      else pure (some ⟨property.getD defaultDiscriminatorProperty, classes⟩)

/-- Adds the polymorphic bases among some types to a map. -/
def resolveBases (graph : TypeGraph) (candidates : List String) (bases : PolymorphismMap) :
    List TypeDescriptor → Traced PolymorphismMap
  | [] => pure bases
  | t :: rest => do
    match ← resolveBase graph candidates t with
    | none => resolveBases graph candidates bases rest
    | some base =>
      Traced.report (.polymorphicBase t.name base.classes.length base.property)
      resolveBases graph candidates (bases.insert t.name base) rest

/-- The polymorphic bases among the candidate types of a graph. -/
def resolvePolymorphism (graph : TypeGraph) (candidates : List TypeDescriptor) :
    Traced PolymorphismMap :=
  resolveBases graph (candidates.map (·.name)) [] candidates

end ApiContract
