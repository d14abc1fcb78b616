/-!
# Path templates

The path of an operation is put together from a base path and a method path. `preparePath` brings
the joined text into canonical form, in four steps on its characters:

* `stripPatterns` : a variable `{name:pattern}` keeps its name only.
* `isPathSafe` : characters that may not stand in a path are dropped.
* `collapseSlashes` : of several slashes in a row one stays.
* `dropFinalSlash` : a path does not end in a slash unless it is one.

`pathVariables` lists the variables of a path.
-/

namespace ApiContract

/-- ASCII letters and digits, slashes, braces and `-`, `_`, `.`, `~`. -/
def isPathSafe (c : Char) : Bool :=
  c.isAlphanum || c == '/' || c == '\x7b' || c == '\x7d' || c == '-' || c == '_' || c == '.' ||
    c == '~'

/-- Drops what stands in braces behind a colon, and braces inside of braces with all they hold.
`depth` counts the braces that are open, and `skipping` says that a colon was met in them. -/
def stripPatterns (depth : Nat) (skipping : Bool) : List Char → List Char
  | [] => []
  | c :: rest =>
    if c = '\x7b' then
      if depth = 0 then c :: stripPatterns 1 skipping rest
      else stripPatterns (depth + 1) skipping rest
    else if c = '\x7d' ∧ 0 < depth then
      if depth = 1 then c :: stripPatterns 0 false rest
      else stripPatterns (depth - 1) skipping rest
    else if c = ':' ∧ depth = 1 then stripPatterns depth true rest
    else if skipping ∨ 1 < depth then stripPatterns depth skipping rest
    else c :: stripPatterns depth skipping rest

/-- Drops every slash that follows a slash; `afterSlash` says that one has just been passed. -/
def collapseSlashes (afterSlash : Bool) : List Char → List Char
  | [] => []
  | c :: rest =>
    if c = '/' then
      if afterSlash then collapseSlashes true rest else c :: collapseSlashes true rest
    else c :: collapseSlashes false rest

/-- Drops a slash at the end of a text of several characters. -/
def dropFinalSlash (s : List Char) : List Char :=
  if 1 < s.length ∧ s.getLast? = some '/' then s.dropLast else s

/-- The canonical form of a path, on characters. -/
def canonicalPath (s : List Char) : List Char :=
  dropFinalSlash ('/' :: collapseSlashes true ((stripPatterns 0 false s).filter isPathSafe))

/-- The canonical path of some segments, joined by slashes. -/
def preparePath (segments : List String) : String :=
  String.ofList (canonicalPath ("/".intercalate segments).toList)

/-- Whether a character may stand in the name of a variable. -/
def isVariableChar (c : Char) : Bool := c != '\x7d' && c != '/'

/-- The variables of a path, on characters: what stands between an opening brace and the next
closing brace, if it is not empty and holds no slash. -/
def variablesOf : List Char → List (List Char)
  | [] => []
  | c :: rest =>
    if c = '\x7b' then
      let name := rest.takeWhile isVariableChar
      match hafter : rest.dropWhile isVariableChar with
      | '\x7d' :: after =>
        have : after.length < rest.length + 1 := by
          have h := (List.dropWhile_sublist isVariableChar (l := rest)).length_le
          rw [hafter, List.length_cons] at h
          omega
        if name.isEmpty then variablesOf rest else name :: variablesOf after
      | _ => variablesOf rest
    else variablesOf rest
termination_by s => s.length

/-- The variables of a path in order. -/
def pathVariables (path : String) : List String := (variablesOf path.toList).map String.ofList

end ApiContract
