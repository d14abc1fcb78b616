import ApiContract.Text.Digit
import ApiContract.Yaml.Cursor
import ApiContract.Yaml.Token
/-!
# Reading directives, anchors and tags

Each reader starts behind the mark that opens its token, and gives the token and the place behind
it; `none` where the text is malformed.
-/

namespace ApiContract.Yaml

/-- The tag directive that no text has to state: what `!!` stands for. -/
def coreUri : String := "tag:yaml.org,2002:"

/-- Reads a name: one character at least. -/
def readName (c : Cursor) : Option (String × Cursor) :=
  match c.takeWhile isWordChar with
  | ([], _) => none
  | (name, c) => some (String.ofList name, c)

/-- The most digits that a part of a version may have. -/
def versionDigits : Nat := 9

/-- Reads a part of a version. -/
def readNumber (c : Cursor) : Option (Nat × Cursor) :=
  let (ds, c) := c.takeWhile Char.isDigit
  if ds.isEmpty || versionDigits < ds.length then none
  else some (Text.natOfDecimal ds, c)

/-- Characters of a tag that stand for themselves; commas and brackets only where `wide` allows
them. -/
def isUriChar (wide : Bool) (c : Char) : Bool :=
  isWordChar c || [';', '/', '?', ':', '@', '&', '=', '+', '$', '.', '!', '~', '*', '\'', '(',
    ')'].contains c || (wide && (c == ',' || c == '[' || c == ']'))

/-- The value of two hexadecimal digits behind a percent sign. -/
def percentByte? : List Char → Option Nat
  | '%' :: a :: b :: _ => Text.natOfDigits? 16 [a, b]
  | _ => none

/-- The further bytes of a character of several bytes, each behind a percent sign. -/
def percentTail (value : Nat) (c : Cursor) : Nat → Option (Char × Cursor)
  | 0 => some (Char.ofNat value, c)
  | n + 1 =>
    match percentByte? c.rest with
    | some byte =>
      if 0x80 ≤ byte ∧ byte < 0xC0 then percentTail (value * 0x40 + byte % 0x40) (c.skip 3) n
      else none
    | none => none

/-- Reads a character that is written as its bytes, each behind a percent sign. -/
def percentChar (c : Cursor) : Option (Char × Cursor) := do
  let byte ← percentByte? c.rest
  let c := c.skip 3
  if byte < 0x80 then return (Char.ofNat byte, c)
  else if 0xC0 ≤ byte ∧ byte < 0xE0 then percentTail (byte % 0x20) c 1
  else if 0xE0 ≤ byte ∧ byte < 0xF0 then percentTail (byte % 0x10) c 2
  else if 0xF0 ≤ byte ∧ byte < 0xF8 then percentTail (byte % 0x08) c 3
  else none

/-- Reads the characters of a tag, added to `acc` from the back. -/
def readUri (wide : Bool) (acc : List Char) (c : Cursor) : Nat → Option (List Char × Cursor)
  | 0 => none
  | fuel + 1 =>
    match c.head? with
    | some '%' =>
      match percentChar c with
      | some (char, c) => readUri wide (char :: acc) c fuel
      | none => none
    | some char =>
      if isUriChar wide char then readUri wide (char :: acc) c.next fuel else some (acc, c)
    | none => some (acc, c)

/-- The part of a tag, read from the back, that counts: a null character ends it. -/
def tagText (reversed : List Char) : String :=
  String.ofList (reversed.reverse.takeWhile (· != '\x00'))

/-- Reads a tag handle: an exclamation mark, or a name between two. -/
def readHandle (c : Cursor) : Option (List Char × Cursor) :=
  if c.isAt '!' then
    let (name, c) := c.next.takeWhile isWordChar
    if c.isAt '!' then some ('!' :: (name ++ ['!']), c.next) else some ('!' :: name, c)
  else none

/-- Reads a directive that states a version. -/
def readVersion (c : Cursor) : Option (Token × Cursor) := do
  let (major, c) ← readNumber (c.skipWhile isBlank)
  if !c.isAt '.' then none
  let (minor, c) ← readNumber c.next
  return (.version major minor, c)

/-- Reads a directive that states what a tag handle stands for. -/
def readTagDirective (bound : Nat) (c : Cursor) : Option (Token × Cursor) := do
  let (handle, c) ← readHandle (c.skipWhile isBlank)
  if handle.getLast? != some '!' || !c.atBlank then none
  let (uri, c) ← readUri true [] (c.skipWhile isBlank) bound
  if uri.isEmpty || !c.atWordEnd then none
  return (.tagDirective (String.ofList handle) (tagText uri), c)

/-- Reads a directive. -/
def readDirective (bound : Nat) (c : Cursor) : Option (Token × Cursor) := do
  let (name, c) ← readName c
  if !c.atWordEnd then none
  let (token, c) ← match name with
    | "YAML" => readVersion c
    | "TAG" => readTagDirective bound c
    | _ => none
  return (token, ← c.lineRest?)

/-- Whether something may stand directly behind the name of an anchor. -/
def endsAnchor (c : Cursor) : Bool :=
  c.atWordEnd || c.head?.any ['?', ':', ',', ']', '\x7d', '%', '@', '\x60'].contains

/-- Reads the name of an anchor. -/
def readAnchor (c : Cursor) : Option (String × Cursor) :=
  (readName c).filter fun (_, c) => endsAnchor c

/-- Reads a tag in angle brackets. -/
def readVerbatimTag (bound : Nat) (c : Cursor) : Option (Token × Cursor) := do
  let (uri, c) ← readUri true [] c bound
  if uri.isEmpty || !c.isAt '>' then none
  return (.tag "" (tagText uri), c.next)

/-- Reads a tag with a handle; one whose first mark does not end a handle is a local tag. -/
def readShortTag (bound : Nat) (c : Cursor) : Option (Token × Cursor) := do
  let (handle, c) ← readHandle c
  if 1 < handle.length && handle.getLast? == some '!' then
    let (suffix, c) ← readUri false [] c bound
    if suffix.isEmpty then none
    return (.tag (String.ofList handle) (tagText suffix), c)
  else
    let (rest, c) ← readUri false [] c bound
    let suffix := tagText (rest ++ handle.tail.reverse)
    return (if suffix = "" then .tag "" "!" else .tag "!" suffix, c)

/-- Reads a tag, from its exclamation mark on; inside brackets a comma may follow. -/
def readTag (bound : Nat) (flow : Bool) (c : Cursor) : Option (Token × Cursor) := do
  let (token, c) ← if c.isNext '<' then readVerbatimTag bound (c.skip 2) else readShortTag bound c
  if c.atWordEnd || (flow && c.isAt ',') then return (token, c)
  none

end ApiContract.Yaml
