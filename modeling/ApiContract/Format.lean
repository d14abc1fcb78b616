import ApiContract.Fault
import ApiContract.Text.Blank
import ApiContract.Text.Lowered
import ApiContract.Text.Split
/-!
# Formats

Type graphs and specifications are JSON or YAML. The format follows from a word, or from the
extension of a file name, in any letter case.

* `Format.parse`, `Format.ofPath?`, `Format.ofFile`.
* `extension?` : what follows the last dot of the last name in a path.
-/

namespace ApiContract

open Text

/-- A format of type graphs and specifications. -/
inductive Format where
  | json
  | yaml
deriving DecidableEq, Repr, Inhabited

/-- The last name in a path. Slashes at the end and names that stay in place (`.`) do not count; a
path that ends by going up (`..`), or that only stays in place, has no last name. -/
def lastName? (path : List Char) : Option (List Char) :=
  let names := (splitOn '/' path).filter fun name => name ≠ [] ∧ name ≠ ['.']
  match names.getLast? with
  | none => none
  | some name => if name = ['.', '.'] then none else some name

/-- The extension of the last name in a path. A dot at the start of the name makes none. -/
def extension? (path : String) : Option String :=
  (lastName? path.toList).bind fun name =>
    match splitLast '.' name with
    | some (before, after) => if before.isEmpty then none else some (String.ofList after)
    | none => none

namespace Format

/-- The name of a format. -/
def name : Format → String
  | .json => "json"
  | .yaml => "yaml"

/-- The format that a word in small letters names. -/
def ofWord? : String → Option Format
  | "json" => some .json
  | "yaml" => some .yaml
  | "yml" => some .yaml
  | _ => none

/-- The format that a word names. -/
def parse (text : String) : Except Fault Format :=
  let word := String.ofList (lowered text.toList)
  match ofWord? word with
  | some format => .ok format
  | none => .error (.configuration (.unknownFormat word))

/-- The format that the extension of a file implies. -/
def ofPath? (path : String) : Option Format :=
  (extension? path).bind fun ending => (parse ending).toOption

end Format

/-- Whether a text without any other sign of its format is JSON: it starts with a brace. -/
def looksLikeJson (text : String) : Bool := (trimStart text.toList).head? == some '\x7b'

/-- The format of a file: what its extension implies, else what its text looks like. -/
def Format.ofFile (path text : String) : Format :=
  (ofPath? path).getD (if looksLikeJson text then .json else .yaml)

end ApiContract
