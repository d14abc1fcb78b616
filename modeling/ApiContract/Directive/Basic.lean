import ApiContract.Assoc
import ApiContract.Decimal.Binary64
import ApiContract.TypeRef
import ApiContract.Verb
/-!
# Directives

Directives are the metadata that a host program attaches to its types, fields, handler methods and
parameters. They are only read here. `Directives` is the list of them that one element carries,
with the questions asked of it: whether an element is excluded, which route it declares, and so on.
Where a directive may occur once, the first one counts.

* `Binding.resolveName`, `Binding.isRequired` : what a binding says about a parameter.
* `Directives.isExcluded`, `Directives.route?`, … : the look-ups.
-/

namespace ApiContract

/-- One subclass of a polymorphic base, and the discriminator value that stands for it. -/
structure SubtypeDecl where
  typeName : String
  tag : Option String := none
deriving DecidableEq, Repr, Inhabited

/-- Whether a property is only read or only written. -/
inductive Access where
  | readOnly
  | writeOnly
deriving DecidableEq, Repr, Inhabited

/-- Descriptive metadata. -/
structure Description where
  description : Option String := none
  deprecated : Bool := false
  access : Option Access := none
deriving DecidableEq, Repr, Inhabited

/-- Routing metadata of a handler type (its base path) or of a handler method. -/
structure Route where
  paths : List String := []
  verbs : List Verb := []
  name : Option String := none
  consumes : Option String := none
  produces : Option String := none
deriving DecidableEq, Repr, Inhabited

/-- Where a handler parameter comes from. -/
inductive BindingLocation where
  | path
  | query
  | header
  | body
deriving DecidableEq, Repr, Inhabited

/-- How a handler parameter is bound. -/
structure Binding where
  location : BindingLocation
  name : Option String := none
  value : Option String := none
  required : Option Bool := none
deriving DecidableEq, Repr, Inhabited

/-- A declared response header. -/
structure HeaderDecl where
  description : Option String := none
  type : TypeRef := .text
deriving DecidableEq, Repr, Inhabited

/-- A declared response. -/
structure ResponseDecl where
  code : UInt16
  description : Option String := none
  body : Option TypeRef := none
  headers : Assoc String HeaderDecl := []
deriving DecidableEq, Repr, Inhabited

/-- A directive. -/
inductive Directive where
  | polymorphic (property : Option String) (subtypes : List SubtypeDecl)
  | exclude
  | ignore
  | notNull
  | min (value : Binary64)
  | max (value : Binary64)
  | size (least greatest : Option UInt64)
  | pattern (regex : String)
  | describe (description : Description)
  | deprecated
  | route (route : Route)
  | tag (name : String)
  | binding (binding : Binding)
  | responseStatus (code : UInt16)
  | responses (entries : List ResponseDecl)
deriving DecidableEq, Repr, Inhabited

/-- A text that is there and not empty. -/
def nonEmpty? (text : Option String) : Option String := text.filter (· ≠ "")

theorem nonEmpty?_some (text : String) :
    nonEmpty? (some text) = if text = "" then none else some text := by
  by_cases h : text = "" <;> simp [nonEmpty?, Option.filter, h]

namespace Route

/-- A route with one path. -/
def ofPath (path : String) (verbs : List Verb) : Route := { paths := [path], verbs }

/-- The base path of a handler type. -/
def base (path : String) : Route := ofPath path []

end Route

namespace Binding

/-- The name of a parameter: the explicit name, else the value, else the declared name. Empty texts
count as absent. -/
def resolveName (b : Binding) (declared : String) : String :=
  ((nonEmpty? b.name).or (nonEmpty? b.value)).getD declared

/-- Whether a parameter has to be given: always in a path, elsewhere unless said otherwise. -/
def isRequired (b : Binding) : Bool := b.location == .path || b.required.getD true

end Binding

/-- The directives of one element, in order of declaration. -/
abbrev Directives := List Directive

namespace Directives

/-- Whether the element is left out of the document. -/
def isExcluded (ds : Directives) : Bool := ds.any fun d => d matches .exclude

/-- Whether the field is skipped when its class becomes an object. -/
def isIgnored (ds : Directives) : Bool := ds.any fun d => d matches .ignore

/-- Whether the field is declared never to be null. -/
def isNotNull (ds : Directives) : Bool := ds.any fun d => d matches .notNull

/-- Whether the element is deprecated, by a directive of its own or by its description. -/
def isDeprecated (ds : Directives) : Bool :=
  ds.any fun
    | .deprecated => true
    | .describe d => d.deprecated
    | _ => false

/-- The first description. -/
def description? (ds : Directives) : Option Description :=
  ds.findSome? fun
    | .describe d => some d
    | _ => none

/-- The first route. -/
def route? (ds : Directives) : Option Route :=
  ds.findSome? fun
    | .route r => some r
    | _ => none

/-- The first binding. -/
def binding? (ds : Directives) : Option Binding :=
  ds.findSome? fun
    | .binding b => some b
    | _ => none

/-- The first tag. -/
def tag? (ds : Directives) : Option String :=
  ds.findSome? fun
    | .tag name => some name
    | _ => none

/-- The first response status. -/
def responseStatus? (ds : Directives) : Option UInt16 :=
  ds.findSome? fun
    | .responseStatus code => some code
    | _ => none

/-- The entries of the first list of responses. -/
def responses? (ds : Directives) : Option (List ResponseDecl) :=
  ds.findSome? fun
    | .responses entries => some entries
    | _ => none

/-- The property and the subtypes of the first polymorphic declaration. -/
def polymorphic? (ds : Directives) : Option (Option String × List SubtypeDecl) :=
  ds.findSome? fun
    | .polymorphic property subtypes => some (property, subtypes)
    | _ => none

end Directives

end ApiContract
