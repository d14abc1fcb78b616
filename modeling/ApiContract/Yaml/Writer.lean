import ApiContract.Decimal.Shortest
import ApiContract.Yaml.Notation
/-!
# Writing YAML

`Json.yaml` writes a value in block style. Members stand on lines of their own, nested ones two
columns further in; the items of a list stand under its key without further indentation; what is
empty is written in brackets. No line is folded.
-/

namespace ApiContract

namespace Yaml

/-- Doubles in YAML: positive exponents carry no sign. -/
def floatLayout : Decimal.FloatLayout := ⟨-5, 16, false⟩

/-- The text of a double. -/
def floatText (x : Binary64) : String :=
  if x.isFinite then floatLayout.write x
  else if x.isNaN then ".nan"
  else if x.isNegative then "-.inf" else ".inf"

/-- The text of a value that stands on the line of its key or its dash, with further lines
indented. -/
def leafText (indent : Nat) : Json → List Char
  | .null => "null".toList
  | .bool true => "true".toList
  | .bool false => "false".toList
  | .int n => if n < 0 then '-' :: Decimal.digits n.natAbs else Decimal.digits n.natAbs
  | .float x => (floatText x).toList
  | .str s => writeText indent s
  | .arr _ => ['[', ']']
  | .obj _ => ['\x7b', '\x7d']

/-- Ends the line, unless it has been ended. -/
def endLine (s : List Char) : List Char :=
  if s.getLast?.any isBreak then s else s ++ ['\n']

/-- Some blanks. -/
def blanks (n : Nat) : List Char := List.replicate n ' '

/-- The greatest number of bytes of a key that stands on one line with its value. -/
def simpleKeyLimit : Nat := 128

/-- Whether a key stands on one line with its value. -/
def isSimpleKey (key : String) : Bool :=
  key.utf8ByteSize ≤ simpleKeyLimit && !key.toList.any isBreak

/-- What stands before the value of a key; `indent` is the column of the key. -/
def keyText (indent : Nat) (key : String) : List Char :=
  if isSimpleKey key then writeText (indent + 2) key ++ [':']
  else '?' :: ' ' :: (endLine (writeText (indent + 2) key) ++ blanks indent ++ [':'])

mutual

/-- A value behind a dash or a colon: the lines of a collection start where the writer stands, in
the column `indent`. -/
def block (indent : Nat) : Json → List Char
  | .arr (item :: rest) => items indent true (item :: rest)
  | .obj (member :: rest) => members indent true (member :: rest)
  | leaf => endLine (leafText indent leaf)

/-- The items of a list, whose dashes stand in the column `indent`; `placed` says that the writer
stands there. -/
def items (indent : Nat) (placed : Bool) : List Json → List Char
  | [] => []
  | item :: rest =>
    (if placed then [] else blanks indent) ++ '-' :: ' ' ::
      (block (indent + 2) item ++ items indent false rest)

/-- The members of an object, whose keys stand in the column `indent`; `placed` says that the writer
stands there. -/
def members (indent : Nat) (placed : Bool) : List (String × Json) → List Char
  | [] => []
  | (key, value) :: rest =>
    (if placed then [] else blanks indent) ++ keyText indent key ++
      (if isSimpleKey key then behindKey indent value else ' ' :: block (indent + 2) value) ++
      members indent false rest

/-- The value behind the colon of a key that stands in the column `indent`. -/
def behindKey (indent : Nat) : Json → List Char
  | .arr (item :: rest) => '\n' :: items indent false (item :: rest)
  | .obj (member :: rest) => '\n' :: members (indent + 2) false (member :: rest)
  | leaf => ' ' :: endLine (leafText (indent + 2) leaf)

end

end Yaml

/-- The YAML text of a value. -/
def Json.yaml (value : Json) : String :=
  String.ofList <| match value with
    | .arr (item :: rest) => Yaml.items 0 true (item :: rest)
    | .obj (member :: rest) => Yaml.members 0 true (member :: rest)
    | leaf => Yaml.endLine (Yaml.leafText 2 leaf)

end ApiContract
