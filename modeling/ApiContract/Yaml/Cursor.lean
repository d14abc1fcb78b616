import ApiContract.Yaml.Character
/-!
# Places in a text

A `Cursor` is a place in a YAML text: what is left of the text, and how many characters, lines and
columns lie before it. Indentation is a matter of columns.

* `Cursor.next`, `Cursor.nextLine` : the place behind a character and behind a line break.
* `Cursor.lineBreak` : a line break as it is kept in a scalar.
-/

namespace ApiContract.Yaml

/-- A place in a text. -/
structure Cursor where
  rest : List Char
  index : Nat := 0
  line : Nat := 0
  column : Nat := 0
deriving Repr, Inhabited

namespace Cursor

/-- The character at a place. -/
def head? (c : Cursor) : Option Char := c.rest.head?

/-- Whether a place lies at the end of the text. -/
def atEnd (c : Cursor) : Bool := c.rest.isEmpty

/-- Whether the character at a place is the given one. -/
def isAt (c : Cursor) (char : Char) : Bool := c.rest.head? == some char

/-- Whether the character behind the one at a place is the given one. -/
def isNext (c : Cursor) (char : Char) : Bool := c.rest.tail.head? == some char

/-- Whether a blank stands at a place. -/
def atBlank (c : Cursor) : Bool := c.rest.head?.any isBlank

/-- Whether a line break stands at a place. -/
def atBreak (c : Cursor) : Bool := c.rest.head?.any isBreak

/-- Whether a line ends at a place. -/
def atLineEnd (c : Cursor) : Bool := c.atEnd || c.atBreak

/-- Whether a word ends at a place. -/
def atWordEnd (c : Cursor) : Bool := endsWord c.rest

/-- Whether a word ends behind the character at a place. -/
def nextEndsWord (c : Cursor) : Bool := endsWord c.rest.tail

/-- The place behind the character at a place. -/
def next (c : Cursor) : Cursor :=
  match c.rest with
  | [] => c
  | _ :: rest => { c with rest, index := c.index + 1, column := c.column + 1 }

/-- The place behind some characters. -/
def skip (c : Cursor) : Nat → Cursor
  | 0 => c
  | n + 1 => c.next.skip n

/-- The line break at a place, as it is kept in a scalar, and the place behind it. Line and
paragraph separators stay what they are, all other line breaks become line feeds. -/
def lineBreak (c : Cursor) : List Char × Cursor :=
  match c.rest with
  | '\r' :: '\n' :: rest => (['\n'], ⟨rest, c.index + 2, c.line + 1, 0⟩)
  | char :: rest =>
    if isBreak char then
      let kept := if char == '\u2028' || char == '\u2029' then char else '\n'
      ([kept], ⟨rest, c.index + 1, c.line + 1, 0⟩)
    else ([], c)
  | [] => ([], c)

/-- The place behind the line break at a place. -/
def nextLine (c : Cursor) : Cursor := c.lineBreak.2

/-- The characters of a class at a place, and the place behind them. -/
def takeWhile (c : Cursor) (p : Char → Bool) : List Char × Cursor :=
  let taken := c.rest.takeWhile p
  (taken, c.skip taken.length)

/-- The place behind the characters of a class at a place. -/
def skipWhile (c : Cursor) (p : Char → Bool) : Cursor := (c.takeWhile p).2

/-- The place at the end of a line. -/
def skipToLineEnd (c : Cursor) : Cursor := c.skipWhile fun char => !isBreak char

/-- Whether a mark that starts or ends a document stands at a place: three equal characters at the
start of a line, with nothing behind them. -/
def atDocumentMark (c : Cursor) (mark : Char) : Bool :=
  c.column == 0 && c.rest.take 3 == [mark, mark, mark] && endsWord (c.rest.drop 3)

/-- Whether a document starts or ends at a place. -/
def atDocumentEdge (c : Cursor) : Bool := c.atDocumentMark '-' || c.atDocumentMark '.'

/-- The place behind blanks and a comment, if the line ends there. -/
def lineRest? (c : Cursor) : Option Cursor :=
  let c := c.skipWhile isBlank
  let c := if c.isAt '#' then c.skipToLineEnd else c
  if c.atLineEnd then some c.nextLine else none

end Cursor

end ApiContract.Yaml
