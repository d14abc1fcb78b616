import ApiContract.Text.Quoted
import ApiContract.TypeRef
import ApiContract.Verb
/-!
# Faults

What can stop a generation. Faults are causes, with the names they concern; `Fault.message` gives
them their wording.

* `ConfigurationProblem` : malformed, contradictory or missing declarations.
* `ShapeProblem` : shapes of types and parameters that have no schema.
* `Fault` : these two, type notations that do not parse, and faults of files and their formats. A
  JSON or YAML fault keeps the notation error inside it, if there is one.
-/

namespace ApiContract

/-- A malformed, contradictory or missing declaration. `stated` is one that a caller words. -/
inductive ConfigurationProblem where
  | stated (text : String)
  | repeatedType (name : String)
  | emptySegment (pattern : String)
  | partialWildcard (pattern : String)
  | noSubclasses (base : String)
  | emptyDiscriminator (base : String)
  | unknownSubclass (base subclass : String)
  | repeatedTag (base tag : String)
  | repeatedSubclass (base subclass : String)
  | noSubclassLeft (base : String)
  | superclassCycle (through resolving : String)
  | sharedComponent (first second component : String)
  | noVerbs (handler method : String)
  | ambiguousBasePath (handler : String) (paths : List String)
  | repeatedResponse (method : String) (code : UInt16)
  | repeatedOperation (verb : Verb) (path first second : String)
  | unknownFormat (text : String)
deriving DecidableEq, Repr

/-- A shape that has no schema. `stated` is one that a caller words. -/
inductive ShapeProblem where
  | stated (text : String)
  | nestedContainers (type : TypeRef)
  | inField (owner field : String) (problem : ShapeProblem)
  | inParameter (parameter method : String) (problem : ShapeProblem)
  | severalBodies (method : String) (count : Nat)
deriving DecidableEq, Repr

/-- What can stop a generation. -/
inductive Fault where
  | configuration (problem : ConfigurationProblem)
  | unsupportedShape (problem : ShapeProblem)
  | badNotation (error : NotationError)
  | json (inner : Option NotationError)
  | yaml (inner : Option NotationError)
  | toml
  | file (reason : String)
deriving DecidableEq, Repr

/-- The wording of a configuration problem. -/
def ConfigurationProblem.message : ConfigurationProblem → String
  | .stated text => text
  | .repeatedType name => "type '" ++ name ++ "' is declared more than once in the type graph"
  | .emptySegment pattern => "namespace pattern '" ++ pattern ++ "' contains an empty segment"
  | .partialWildcard pattern =>
    "namespace pattern '" ++ pattern ++ "': wildcards must span a whole segment"
  | .noSubclasses base => "polymorphic base '" ++ base ++ "' declares no subclasses"
  | .emptyDiscriminator base =>
    "polymorphic base '" ++ base ++ "' declares an empty discriminator property"
  | .unknownSubclass base subclass =>
    "polymorphic base '" ++ base ++ "' names unknown subclass '" ++ subclass ++ "'"
  | .repeatedTag base tag =>
    "polymorphic base '" ++ base ++ "' uses discriminator value '" ++ tag ++ "' more than once"
  | .repeatedSubclass base subclass =>
    "polymorphic base '" ++ base ++ "' lists subclass '" ++ subclass ++ "' more than once"
  | .noSubclassLeft base =>
    "polymorphic base '" ++ base ++ "' has no subclass left after exclusion"
  | .superclassCycle through resolving =>
    "superclass cycle through '" ++ through ++ "' while resolving '" ++ resolving ++ "'"
  | .sharedComponent first second component =>
    "types '" ++ first ++ "' and '" ++ second ++ "' share the component name '" ++ component ++ "'"
  | .noVerbs handler method =>
    "route on " ++ handler ++ "." ++ method ++ " declares no HTTP methods"
  | .ambiguousBasePath handler paths =>
    "handler " ++ handler ++ " declares an ambiguous base path: " ++ Text.quotedList paths
  | .repeatedResponse method code =>
    "method " ++ method ++ " declares response " ++ toString code.toNat ++ " more than once"
  | .repeatedOperation verb path first second =>
    verb.name ++ " " ++ path ++ " is declared by both '" ++ first ++ "' and '" ++ second ++ "'"
  | .unknownFormat text => "unknown output format '" ++ text ++ "'"

/-- The wording of a shape problem. -/
def ShapeProblem.message : ShapeProblem → String
  | .stated text => text
  | .nestedContainers type => "nested containers unsupported: '" ++ type.write ++ "'"
  | .inField owner field problem => "field " ++ owner ++ "." ++ field ++ ": " ++ problem.message
  | .inParameter parameter method problem =>
    "parameter " ++ parameter ++ " of " ++ method ++ ": " ++ problem.message
  | .severalBodies method count =>
    "method " ++ method ++ " binds " ++ toString count ++ " parameters to the request body"

namespace Fault

/-- The wording of a fault. What a format's reader would say is left to that reader. -/
def message : Fault → String
  | .configuration problem => "Configuration error: " ++ problem.message
  | .unsupportedShape problem => "Unsupported shape: " ++ problem.message
  | .badNotation error => error.message
  | .json inner => "JSON error: " ++ (inner.map NotationError.message).getD "malformed document"
  | .yaml inner => "YAML error: " ++ (inner.map NotationError.message).getD "malformed document"
  | .toml => "TOML error: malformed document"
  | .file reason => "I/O error: " ++ reason

/-- Whether a fault lies in the declarations of the input, and not in files or their formats. -/
def isDeclaration : Fault → Bool
  | .configuration _ | .unsupportedShape _ | .badNotation _ => true
  | _ => false

/-- Says where an unsupported shape was met; every other fault is left as it is. -/
def locate (place : ShapeProblem → ShapeProblem) : Fault → Fault
  | .unsupportedShape problem => .unsupportedShape (place problem)
  | fault => fault

end Fault

end ApiContract
