import ApiContract.Component.Component
import ApiContract.Config
import ApiContract.Endpoint.OperationId
import ApiContract.Endpoint.Operations
/-!
# Generation

`generate` compiles a type graph into a document. Data types in the model namespaces become
components, handlers in the handler namespaces give operations, repeated operation identifiers are
renamed, and every operation is stored under its path and verb. Any fault stops the whole
generation.

* `candidates` : the types that become components.
* `componentsOf`, `allOperations`, `renameOperations`, `assemble` : the steps.
-/

namespace ApiContract

/-- Whether a type is a data type inside the model namespaces. -/
def isModel (models : NamespaceMatcher) (t : TypeDescriptor) : Bool :=
  models.containsType t.name && !t.declaresRoutes

/-- Whether a data type is neither excluded nor refused by a filter. -/
def isIncluded (hooks : Hooks) (t : TypeDescriptor) : Bool :=
  !t.directives.isExcluded && hooks.includesType t

/-- The types that become components; data types that do not are reported. -/
def candidates (hooks : Hooks) (models : NamespaceMatcher) :
    List TypeDescriptor → Traced (List TypeDescriptor)
  | [] => pure []
  | t :: rest =>
    if isModel models t then
      if isIncluded hooks t then do
        let others ← candidates hooks models rest
        pure (t :: others)
      else do
        Traced.report (.typeExcluded t.name)
        candidates hooks models rest
    else candidates hooks models rest

/-- The polymorphic bases of a graph under a configuration. -/
def polymorphicBases (config : Config) (hooks : Hooks) (graph : TypeGraph) :
    Traced PolymorphismMap := do
  let models ← Traced.lift (NamespaceMatcher.ofTexts config.modelNamespaces)
  let types ← candidates hooks models graph.types
  resolvePolymorphism graph types

/-- Adds the components of some types; `owners` holds the type behind each component name. -/
def componentsOf (scope : Scope) (hooks : Hooks) (owners : Assoc String String)
    (components : Assoc String Schema) : List TypeDescriptor → Traced (Assoc String Schema)
  | [] => pure components
  | t :: rest =>
    match owners.get? t.simpleName with
    | some first => .fail (.configuration (.sharedComponent first t.name t.simpleName))
    | none => do
      let schema ← componentOf scope hooks t
      componentsOf scope hooks (owners.insert t.simpleName t.name)
        (components.insertSorted t.simpleName schema) rest

/-- The handler types of a graph. -/
def handlersOf (graph : TypeGraph) (handlers : NamespaceMatcher) : List TypeDescriptor :=
  graph.types.filter fun t => handlers.containsType t.name && t.declaresRoutes

/-- The operations of some handlers. -/
def allOperations (scope : Scope) (hooks : Hooks) :
    List TypeDescriptor → Traced (List Operation)
  | [] => pure []
  | handler :: rest => do
    let here ← operationsOf scope hooks handler
    let others ← allOperations scope hooks rest
    pure (here ++ others)

/-- Operations with new identifiers. -/
def withIds (operations : List Operation) (ids : List String) : List Operation :=
  List.zipWith (fun o id => { o with id }) operations ids

/-- Reports each operation whose identifier changes. -/
def reportRenamed : List String → List String → Traced Unit
  | before :: olds, after :: news => do
    if before != after then Traced.report (.operationRenamed before after)
    reportRenamed olds news
  | _, _ => pure ()

/-- Renames operations with repeated identifiers. -/
def renameOperations (operations : List Operation) : Traced (List Operation) := do
  let olds := operations.map (·.id)
  let news := uniqueIds olds
  reportRenamed olds news
  pure (withIds operations news)

/-- Stores operations in a document; no two may share path and verb. -/
def assemble (d : Document) : List Operation → Traced Document
  | [] => pure d
  | o :: rest =>
    match d.operation? o.path o.verb with
    | some first => .fail (.configuration (.repeatedOperation o.verb o.path first.id o.id))
    | none => assemble (d.insertOperation o) rest

/-- Reports references to components that do not exist. -/
def reportDangling : List DanglingReference → Traced Unit
  | [] => pure ()
  | r :: rest => do
    Traced.report (.danglingReference r.target r.location)
    reportDangling rest

/-- Compiles a type graph into a document. -/
def generate (config : Config) (hooks : Hooks) (graph : TypeGraph) : Traced Document := do
  let models ← Traced.lift (NamespaceMatcher.ofTexts config.modelNamespaces)
  let handlers ← Traced.lift (NamespaceMatcher.ofTexts config.handlerNamespaces)
  let types ← candidates hooks models graph.types
  let bases ← resolvePolymorphism graph types
  Traced.report (.modelsScanned types.length bases.length)
  let scope : Scope := {
    graph
    namespaces := models
    polymorphism := some bases
    components := some (types.map (·.name))
    rootTypes := config.rootTypes }
  let components ← componentsOf scope hooks [] [] types
  let operations ← allOperations scope hooks (handlersOf graph handlers)
  let operations ← renameOperations operations
  let document ← assemble { info := config.info, components } operations
  reportDangling document.danglingReferences
  pure document

end ApiContract
