import ApiContract.NamespacePattern
import ApiContract.Polymorphism
/-!
# Scopes

A `Scope` is what every transformation of one generation can see: the type graph, the namespaces of
data types, the polymorphic bases, the types that become components, and the root types at which
superclass chains end. It is fixed before the first transformation.
-/

namespace ApiContract

/-- What the transformations of one generation can see. Without a map no type is a polymorphic base;
without a list of components every type inside the namespaces is one. -/
structure Scope where
  graph : TypeGraph
  namespaces : NamespaceMatcher
  polymorphism : Option PolymorphismMap := none
  components : Option (List String) := none
  rootTypes : List String := []

namespace Scope

/-- Whether a type lies inside the namespaces. -/
def isScanned (s : Scope) (name : String) : Bool := s.namespaces.containsType name

/-- Whether a type becomes a component. -/
def isComponent (s : Scope) (name : String) : Bool :=
  s.isScanned name && s.components.all (·.contains name)

/-- Whether superclass chains end at a type. -/
def isRootType (s : Scope) (name : String) : Bool := s.rootTypes.contains name

/-- The polymorphic base with a name. -/
def polymorphicBase? (s : Scope) (name : String) : Option PolymorphicBase :=
  s.polymorphism.bind fun bases => bases.get? name

/-- The type with a name. -/
def lookup? (s : Scope) (name : String) : Option TypeDescriptor := s.graph.get? name

/-- The type with a name, if it becomes a component. -/
def component? (s : Scope) (name : String) : Option TypeDescriptor :=
  (s.lookup? name).filter fun _ => s.isComponent name

end Scope

end ApiContract
