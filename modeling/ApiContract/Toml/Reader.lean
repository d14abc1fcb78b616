import ApiContract.Source.Reading
import ApiContract.Toml.Number
import ApiContract.Toml.Table
import ApiContract.Toml.Text
/-!
# Reading TOML

`Toml.readSource?` reads a TOML text as a source tree, if the text is well formed as a whole.
Nesting and the parts of keys are limited.

* `value` : a value, with lists and tables on one line inside.
* `readLine` : a line, added to the tables of the lines before.
-/

namespace ApiContract.Toml

/-- The text behind blanks, comments and line breaks. -/
def skipLines (s : List Char) : Nat → List Char
  | 0 => s
  | fuel + 1 =>
    let rest := skipComment (skipBlanks s)
    match lineBreak? rest with
    | some rest => skipLines rest fuel
    | none => rest

/-- Reads a key in front of a value: its path, its last part, and what follows the equals sign. -/
def keyHead (s : List Char) : Option (List String × String × List Char) := do
  let (parts, rest) ← path s depthLimit
  let last ← parts.getLast?
  match rest with
  | '=' :: rest => return (parts.dropLast, last, skipBlanks rest)
  | _ => none

mutual

/-- Reads a value, with so many levels of nesting left. -/
def value (fuel levels : Nat) (s : List Char) : Option (Tree × List Char) :=
  match fuel with
  | 0 => none
  | fuel + 1 =>
    match s with
    | '[' :: rest =>
      match levels with
      | 0 => none
      | levels + 1 => (items fuel levels rest).map fun (ts, rest) => (.seq ts, rest)
    | '\x7b' :: rest =>
      match levels with
      | 0 => none
      | levels + 1 =>
        match skipBlanks rest with
        | '\x7d' :: rest => some (.map [], rest)
        | rest => (entries fuel levels [] rest).map fun (t, rest) => (.map (entryTrees t), rest)
    | 't' :: 'r' :: 'u' :: 'e' :: rest => some (.ofAtom (.bool true), rest)
    | 'f' :: 'a' :: 'l' :: 's' :: 'e' :: rest => some (.ofAtom (.bool false), rest)
    | c :: _ =>
      if isQuote c then (text s).map fun (word, rest) => (.ofText word, rest)
      else (number s).map fun (a, rest) => (.ofAtom a, rest)
    | [] => none

/-- Reads the items of a list up to its closing bracket. Line breaks and comments may stand between
them, and a comma behind the last one. -/
def items (fuel levels : Nat) (s : List Char) : Option (List Tree × List Char) :=
  match fuel with
  | 0 => none
  | fuel + 1 =>
    match skipLines s (fuel + 1) with
    | ']' :: rest => some ([], rest)
    | s => do
      let (t, rest) ← value fuel levels s
      match skipLines rest (fuel + 1) with
      | ',' :: rest =>
        let (ts, rest) ← items fuel levels rest
        return (t :: ts, rest)
      | ']' :: rest => return ([t], rest)
      | _ => none

/-- Reads the entries of a table on one line, added to the entries before, up to its closing
brace. -/
def entries (fuel levels : Nat) (t : Table) (s : List Char) : Option (Table × List Char) :=
  match fuel with
  | 0 => none
  | fuel + 1 => do
    let (path, key, rest) ← keyHead s
    let (v, rest) ← value fuel levels rest
    let t ← define path key v t
    match skipBlanks rest with
    | ',' :: rest => entries fuel levels t rest
    | '\x7d' :: rest => return (t, rest)
    | _ => none

end

/-- The tables read so far, and the header under which further keys stand. -/
structure Progress where
  root : Table := []
  header : List String := []

/-- Reads a header behind its opening brackets, up to its closing ones. -/
def readHeader (closing : List Char) (s : List Char) :
    Option (List String × String × List Char) := do
  let (parts, rest) ← path s depthLimit
  let last ← parts.getLast?
  if closing.isPrefixOf rest then
    return (parts.dropLast, last, ← lineRest? (rest.drop closing.length))
  none

/-- Reads a line from its first character that is no blank. -/
def readLine (p : Progress) (s : List Char) : Option (Progress × List Char) :=
  match s with
  | '[' :: '[' :: rest => do
    let (path, key, rest) ← readHeader [']', ']'] rest
    return ({ root := ← openElement path key p.root, header := path ++ [key] }, rest)
  | '[' :: rest => do
    let (path, key, rest) ← readHeader [']'] rest
    return ({ root := ← openTable path key p.root, header := path ++ [key] }, rest)
  | s => do
    let (path, key, rest) ← keyHead s
    let (v, rest) ← value (s.length + 1) depthLimit rest
    return ({ p with root := ← defineIn p.header path key v p.root }, ← lineRest? rest)

/-- Reads all lines. -/
def allLines (p : Progress) (s : List Char) : Nat → Option Table
  | 0 => none
  | fuel + 1 =>
    match skipLines s (fuel + 1) with
    | [] => some p.root
    | s =>
      match readLine p s with
      | some (p, rest) => allLines p rest fuel
      | none => none

/-- What a TOML text reads as. A list that stands for a record may have items behind the last
field. -/
def readSource? (text : String) : Option Source :=
  let s := match text.toList with
    | '\ufeff' :: rest => rest
    | s => s
  (allLines {} s (s.length + 1)).map fun t =>
    { tree := .map (entryTrees t), ended := true, reading := .lenient }

end ApiContract.Toml
