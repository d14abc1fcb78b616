import ApiContract.Command.Session
import ApiContract.Generator
import ApiContract.Storage
/-!
# The command `generate`

Compiles a type graph into a specification and saves it. References to components that do not exist
are printed, but do not stop the command.

* `loadInputs` : the configuration and the type graph of any command.
* `destination` : where the specification goes, and in which format.
-/

namespace ApiContract.Command

variable {m : Type → Type} [Monad m] [Files m]

/-- Loads the configuration and the type graph of a command. -/
def loadInputs (configPath graphPath : String) : Session m (Config × TypeGraph) := do
  let config ← Session.ensure (.configNotLoaded configPath) (Config.load configPath)
  let graph ← Session.ensure (.graphNotLoaded graphPath) (TypeGraph.load graphPath)
  Session.report [.inputsLoaded graph.size config.modelNamespaces config.handlerNamespaces]
  return (config, graph)

/-- The file for a specification in a format when no file is named. -/
def defaultOutput : Format → String
  | .json => "target/_openapi.json"
  | .yaml => "target/_openapi.yaml"

/-- The file and the format of a specification. The format is the given one, else the one that the
file name implies, else JSON. -/
def destination (output : Option String) (format : Option Format) : String × Format :=
  match output with
  | some path => (path, (format.or (Format.ofPath? path)).getD .json)
  | none =>
    let format := format.getD .json
    (defaultOutput format, format)

/-- The lines that name references to components that do not exist. -/
def danglingLines (references : List DanglingReference) : List String :=
  if references.isEmpty then []
  else
    ("⚠️  " ++ toString references.length ++ " unresolved references:") ::
      references.map fun r => "   " ++ r.location ++ " -> " ++ r.target

/-- Runs `generate`. -/
def Session.generate (configPath graphPath : String) (output : Option String)
    (format : Option Format) : Session m Unit := do
  Session.print "🔍 Loading type graph..."
  let (config, graph) ← loadInputs configPath graphPath
  Session.print "⚙️  Generating OpenAPI specification..."
  let document ← Session.follow (.ofGeneration graphPath) (ApiContract.generate config {} graph)
  Session.print ("📊 " ++ toString document.components.length ++ " components, " ++
    toString document.operations.length ++ " operations")
  let (path, format) := destination output format
  Session.ensure (.notSaved path)
    ((Specification.ofDocument document config.servers).save path format true)
  Session.printAll (danglingLines document.danglingReferences)
  Session.print ("✅ OpenAPI specification generated: " ++ path)

end ApiContract.Command
