import ApiContract.Config.Text
import ApiContract.Files
import ApiContract.Format
import ApiContract.Graph.Record
import ApiContract.OpenApi.Text
/-!
# Inputs and specifications in files

Configurations are TOML files. Type graphs and specifications are read in the format that their file
name implies, or else in the one that their text looks like.

* `Config.load`, `TypeGraph.load`, `Specification.load`.
* `Specification.save` : the format is given, whatever the file name is.
-/

namespace ApiContract

variable {m : Type → Type} [Monad m] [Files m]

/-- Reads a file and makes a value of its text. -/
def loadAs {α : Type} (ofText : String → Except Fault α) (path : String) : m (Except Fault α) := do
  return (← Files.read path).bind ofText

/-- Loads a configuration. -/
def Config.load (path : String) : m (Except Fault Config) := loadAs Config.ofToml path

/-- Loads a type graph. -/
def TypeGraph.load (path : String) : m (Except Fault TypeGraph) :=
  loadAs (fun text => TypeGraph.ofText (Format.ofFile path text) text) path

/-- Loads a specification. -/
def Specification.load (path : String) : m (Except Fault Specification) :=
  loadAs (fun text => Specification.ofText (Format.ofFile path text) text) path

/-- Saves a specification. -/
def Specification.save (s : Specification) (path : String) (format : Format) (indented : Bool) :
    m (Except Fault Unit) :=
  Files.save path (s.write format indented)

end ApiContract
