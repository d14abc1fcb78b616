import ApiContract.Document
/-!
# Configuration

What one generation is asked to do: what the document says about itself, which namespaces hold data
types and which hold handlers, where superclass chains end, and the servers to list.
-/

namespace ApiContract

/-- A server to list. -/
structure Server where
  url : String
  description : Option String := none
deriving DecidableEq, Repr, Inhabited

/-- The root types of a configuration that names none. -/
def defaultRootTypes : List String := ["java.lang.Object", "java.lang.Record", "java.lang.Enum"]

/-- What one generation is asked to do. -/
structure Config where
  info : Info :=
    { title := "API Documentation", description := some "Generated API documentation",
      version := "1.0.0" }
  modelNamespaces : List String := []
  handlerNamespaces : List String := []
  rootTypes : List String := defaultRootTypes
  servers : List Server := []
deriving DecidableEq, Repr, Inhabited

namespace Config

/-- The default configuration with a title and a version. -/
def named (title version : String) : Config :=
  let config : Config := {}
  { config with info := { config.info with title, version } }

/-- Sets the description of the document. -/
def withDescription (c : Config) (text : String) : Config :=
  { c with info := { c.info with description := some text } }

/-- Adds a namespace of data types. -/
def withModelNamespace (c : Config) (pattern : String) : Config :=
  { c with modelNamespaces := c.modelNamespaces ++ [pattern] }

/-- Adds a namespace of handlers. -/
def withHandlerNamespace (c : Config) (pattern : String) : Config :=
  { c with handlerNamespaces := c.handlerNamespaces ++ [pattern] }

/-- Adds a root type. -/
def withRootType (c : Config) (name : String) : Config :=
  { c with rootTypes := c.rootTypes ++ [name] }

/-- Adds a server. -/
def withServer (c : Config) (url : String) (description : Option String) : Config :=
  { c with servers := c.servers ++ [{ url, description }] }

end Config

end ApiContract
