import ApiContract.Text.Split
/-!
# Qualified names

The name of a type is a sequence of segments with dots between them. Its namespace is everything
before the last dot, its simple name everything after it.
-/

namespace ApiContract

/-- The namespace of a qualified name; a name without dots lies in the empty namespace. -/
def namespaceOf (name : String) : String :=
  match Text.splitLast '.' name.toList with
  | some (before, _) => String.ofList before
  | none => ""

/-- The last segment of a qualified name. -/
def simpleNameOf (name : String) : String :=
  match Text.splitLast '.' name.toList with
  | some (_, after) => String.ofList after
  | none => name

end ApiContract
