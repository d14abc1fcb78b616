import ApiContract.Yaml.Token.Mark
import ApiContract.Yaml.Token.Scalar
/-!
# From text to tokens

`Token.ofText` reads the tokens of a text. Two things are known only later than they are needed:
that a scalar or a collection is a key, which the colon behind it says, and that a collection is
nested, which the column of its first key says. So the scanner remembers where a key may have
started and inserts tokens there when it meets the colon.

A token counts as read when nothing can be inserted before it any more. Where the text is malformed
only the tokens read so far are given, without a `Token.streamEnd`.

* `Scanner.step` : reads the next tokens.
* `keyLimit` : the greatest distance between the start of a key and its colon.
-/

namespace ApiContract.Yaml

/-- A place where a key may have started. It is `required` to be a key where nothing else can stand
in its column. -/
structure KeyStart where
  required : Bool
  number : Nat
  index : Nat
  line : Nat
  column : Nat
deriving Repr, Inhabited

/-- The state of the scanner: its place; the tokens so far; how many of them are read for good; the
columns of the open block collections, the innermost first; for each open bracket, and outside of
all, where a key may have started; and whether a key may start here. -/
structure Scanner where
  cursor : Cursor
  tokens : Array Token := #[]
  released : Nat := 0
  indents : List Nat := []
  flowKeys : List (Option KeyStart) := []
  blockKey : Option KeyStart := none
  keyAllowed : Bool := true
deriving Inhabited

/-- The greatest distance between the start of a key and its colon. -/
def keyLimit : Nat := 1024

namespace Scanner

/-- Whether the place lies inside brackets. -/
def inFlow (s : Scanner) : Bool := !s.flowKeys.isEmpty

/-- The column of the innermost block collection, or -1. -/
def indent (s : Scanner) : Int :=
  match s.indents with
  | [] => -1
  | column :: _ => column

/-- Where a key may have started. -/
def keyStart? (s : Scanner) : Option KeyStart :=
  match s.flowKeys with
  | [] => s.blockKey
  | k :: _ => k

/-- Sets where a key may have started. -/
def setKey (s : Scanner) (k : Option KeyStart) : Scanner :=
  match s.flowKeys with
  | [] => { s with blockKey := k }
  | _ :: rest => { s with flowKeys := k :: rest }

/-- Adds a token. -/
def push (s : Scanner) (t : Token) : Scanner := { s with tokens := s.tokens.push t }

/-- Moves to a place. -/
def moveTo (s : Scanner) (c : Cursor) : Scanner := { s with cursor := c }

/-- Gives up the place where a key may have started; a required key cannot be given up. -/
def dropKey (s : Scanner) : Option Scanner :=
  match s.keyStart? with
  | some k => if k.required then none else some (s.setKey none)
  | none => some s

/-- Remembers that a key may start here. -/
def saveKey (s : Scanner) : Option Scanner :=
  if s.keyAllowed then do
    let s ← s.dropKey
    let c := s.cursor
    let required := !s.inFlow && s.indent == c.column
    return s.setKey (some ⟨required, s.tokens.size, c.index, c.line, c.column⟩)
  else some s

/-- Whether a key that started somewhere can no longer end here. -/
def isStale (c : Cursor) (k : KeyStart) : Bool := k.line < c.line || k.index + keyLimit < c.index

/-- Gives up a key that can no longer end here. -/
def refresh (c : Cursor) (k : Option KeyStart) : Option (Option KeyStart) :=
  match k with
  | some start => if isStale c start then if start.required then none else some none else some k
  | none => some none

/-- Gives up all keys that can no longer end here. -/
def dropStale (s : Scanner) : Option Scanner := do
  let blockKey ← refresh s.cursor s.blockKey
  let flowKeys ← s.flowKeys.mapM (refresh s.cursor)
  return { s with blockKey, flowKeys }

/-- Opens a block collection in a column farther in, its first token at the place `number`. -/
def openBlock (s : Scanner) (column : Nat) (number : Nat) (t : Token) : Scanner :=
  if s.inFlow || s.indent ≥ column then s
  else { s with indents := column :: s.indents, tokens := s.tokens.insertIdxIfInBounds number t }

/-- Closes the block collections that stand farther in than a column. -/
def closeBlocks (s : Scanner) (column : Int) : Scanner :=
  if s.inFlow then s
  else
    let closed := s.indents.takeWhile fun (i : Nat) => column < (i : Int)
    { s with
      indents := s.indents.drop closed.length
      tokens := s.tokens ++ Array.replicate closed.length Token.blockEnd }

/-- Skips blanks, comments and line breaks. Tabs are skipped where no key may start. -/
def skipBlanks (s : Scanner) : Nat → Scanner
  | 0 => s
  | fuel + 1 =>
    let c := s.cursor
    let c := if c.column == 0 && c.isAt '\ufeff' then c.next else c
    let c := c.skipWhile fun char => char == ' ' || ((s.inFlow || !s.keyAllowed) && char == '\t')
    let c := if c.isAt '#' then c.skipToLineEnd else c
    if c.atBreak then
      skipBlanks { s with cursor := c.nextLine, keyAllowed := s.keyAllowed || !s.inFlow } fuel
    else s.moveTo c

/-- Ends the text. -/
def fetchEnd (s : Scanner) : Option Scanner := do
  let s ← (s.closeBlocks (-1)).dropKey
  return { s with keyAllowed := false }.push .streamEnd

/-- Reads a directive. -/
def fetchDirective (bound : Nat) (s : Scanner) : Option Scanner := do
  let s ← (s.closeBlocks (-1)).dropKey
  let (t, c) ← readDirective bound s.cursor.next
  return ({ s with keyAllowed := false }.push t).moveTo c

/-- Reads a mark that starts or ends a document. -/
def fetchDocumentMark (s : Scanner) (t : Token) : Option Scanner := do
  let s ← (s.closeBlocks (-1)).dropKey
  return ({ s with keyAllowed := false }.push t).moveTo (s.cursor.skip 3)

/-- Reads an opening bracket. -/
def fetchOpening (s : Scanner) (t : Token) : Option Scanner := do
  let s ← s.saveKey
  return ({ s with flowKeys := none :: s.flowKeys, keyAllowed := true }.push t).moveTo s.cursor.next

/-- Reads a closing bracket. -/
def fetchClosing (s : Scanner) (t : Token) : Option Scanner := do
  let s ← s.dropKey
  return ({ s with flowKeys := s.flowKeys.tail, keyAllowed := false }.push t).moveTo s.cursor.next

/-- Reads a comma between two entries. -/
def fetchComma (s : Scanner) : Option Scanner := do
  let s ← s.dropKey
  return ({ s with keyAllowed := true }.push .flowEntry).moveTo s.cursor.next

/-- Reads a dash in front of an item. -/
def fetchDash (s : Scanner) : Option Scanner := do
  if !s.inFlow && !s.keyAllowed then none
  let s ← (s.openBlock s.cursor.column s.tokens.size .blockSequenceStart).dropKey
  return ({ s with keyAllowed := true }.push .blockEntry).moveTo s.cursor.next

/-- Reads a question mark in front of a key. -/
def fetchQuestion (s : Scanner) : Option Scanner := do
  if !s.inFlow && !s.keyAllowed then none
  let s ← (s.openBlock s.cursor.column s.tokens.size .blockMappingStart).dropKey
  return ({ s with keyAllowed := !s.inFlow }.push .key).moveTo s.cursor.next

/-- Reads a colon behind a key. -/
def fetchColon (s : Scanner) : Option Scanner := do
  match s.keyStart? with
  | some k =>
    let s := { s with tokens := s.tokens.insertIdxIfInBounds k.number .key }
    let s := (s.openBlock k.column k.number .blockMappingStart).setKey none
    return ({ s with keyAllowed := false }.push .value).moveTo s.cursor.next
  | none =>
    if !s.inFlow && !s.keyAllowed then none
    let s := s.openBlock s.cursor.column s.tokens.size .blockMappingStart
    return ({ s with keyAllowed := !s.inFlow }.push .value).moveTo s.cursor.next

/-- Reads a reference to an anchor, or an anchor. -/
def fetchAnchor (s : Scanner) (t : String → Token) : Option Scanner := do
  let s ← s.saveKey
  let (name, c) ← readAnchor s.cursor.next
  return ({ s with keyAllowed := false }.push (t name)).moveTo c

/-- Reads a tag. -/
def fetchTag (bound : Nat) (s : Scanner) : Option Scanner := do
  let s ← s.saveKey
  let (t, c) ← readTag bound s.inFlow s.cursor
  return ({ s with keyAllowed := false }.push t).moveTo c

/-- Reads a block scalar. -/
def fetchBlock (bound : Nat) (s : Scanner) (folded : Bool) : Option Scanner := do
  let s ← s.dropKey
  let (text, c) ← blockScalar bound folded s.indent s.cursor.next
  let style := if folded then ScalarStyle.folded else .literal
  return ({ s with keyAllowed := true }.push (.scalar style text)).moveTo c

/-- Reads a quoted scalar. -/
def fetchQuoted (bound : Nat) (s : Scanner) (single : Bool) : Option Scanner := do
  let s ← s.saveKey
  let (text, c) ← quotedScalar bound single s.cursor.next
  let style := if single then ScalarStyle.singleQuoted else .doubleQuoted
  return ({ s with keyAllowed := false }.push (.scalar style text)).moveTo c

/-- Reads a plain scalar. -/
def fetchPlain (bound : Nat) (s : Scanner) : Option Scanner := do
  let s ← s.saveKey
  let (text, broken, c) ← plainScalar bound s.inFlow (s.indent + 1) s.cursor
  return ({ s with keyAllowed := broken }.push (.scalar .plain text)).moveTo c

/-- Characters that no plain scalar starts with. -/
def isIndicator (c : Char) : Bool :=
  ['-', '?', ':', ',', '[', ']', '\x7b', '\x7d', '#', '&', '*', '!', '|', '>', '\'', '"', '%', '@',
    '\x60'].contains c

/-- Whether a plain scalar starts at a place. -/
def startsPlain (flow : Bool) (c : Cursor) : Bool :=
  match c.head? with
  | none => false
  | some char =>
    !(isBlank char || isBreak char || isIndicator char) ||
      (char == '-' && !c.next.atBlank) ||
      (!flow && (char == '?' || char == ':') && !c.nextEndsWord)

/-- Reads what stands at a place that is no blank. -/
def fetch (bound : Nat) (s : Scanner) : Option Scanner :=
  let c := s.cursor
  let flow := s.inFlow
  match c.head? with
  | none => s.fetchEnd
  | some char =>
    if c.column == 0 && char == '%' then s.fetchDirective bound
    else if c.atDocumentMark '-' then s.fetchDocumentMark .documentStart
    else if c.atDocumentMark '.' then s.fetchDocumentMark .documentEnd
    else if char == '[' then s.fetchOpening .flowSequenceStart
    else if char == '\x7b' then s.fetchOpening .flowMappingStart
    else if char == ']' then s.fetchClosing .flowSequenceEnd
    else if char == '\x7d' then s.fetchClosing .flowMappingEnd
    else if char == ',' then s.fetchComma
    else if char == '-' && c.nextEndsWord then s.fetchDash
    else if char == '?' && (flow || c.nextEndsWord) then s.fetchQuestion
    else if char == ':' && (flow || c.nextEndsWord) then s.fetchColon
    else if char == '*' then s.fetchAnchor .alias
    else if char == '&' then s.fetchAnchor .anchor
    else if char == '!' then s.fetchTag bound
    else if char == '|' && !flow then s.fetchBlock bound false
    else if char == '>' && !flow then s.fetchBlock bound true
    else if char == '\'' then s.fetchQuoted bound true
    else if char == '"' then s.fetchQuoted bound false
    else if startsPlain flow c then s.fetchPlain bound
    else none

/-- Whether a token may still get a key in front of it. -/
def awaitsKey (s : Scanner) (number : Nat) : Bool :=
  let pending (k : Option KeyStart) : Bool := k.any (·.number == number)
  pending s.blockKey || s.flowKeys.any pending

/-- Counts the tokens that are read for good. -/
def release (s : Scanner) : Nat → Scanner
  | 0 => s
  | fuel + 1 =>
    if s.released < s.tokens.size && !s.awaitsKey s.released then
      release { s with released := s.released + 1 } fuel
    else s

/-- Reads the next tokens. -/
def step (bound : Nat) (s : Scanner) : Option Scanner := do
  let s ← (s.skipBlanks bound).dropStale
  let s ← (s.closeBlocks s.cursor.column).fetch bound
  let s ← s.dropStale
  return s.release s.tokens.size

/-- Reads tokens up to the end of the text, or as far as it is well formed. -/
def run (bound : Nat) (s : Scanner) : Nat → List Token
  | 0 => (s.tokens.extract 0 s.released).toList
  | fuel + 1 =>
    if s.tokens.back? == some .streamEnd then s.tokens.toList
    else
      match s.step bound with
      | some s => run bound s fuel
      | none => (s.tokens.extract 0 s.released).toList

end Scanner

/-- The tokens of a text, the last of them `Token.streamEnd` if the text is well formed. Each step
reads a character at least, and one the end. -/
def Token.ofText (s : List Char) : List Token :=
  let bound := s.length + 2
  Scanner.run bound { cursor := { rest := s } } bound

end ApiContract.Yaml
