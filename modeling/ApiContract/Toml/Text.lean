import ApiContract.Text.Digit
/-!
# Texts in TOML

Texts stand in double quotes, with escapes, or in single quotes, without; three quotes at each end
allow line breaks inside. Each reader starts behind the opening quotes and gives the text and what
is left; `none` where the text is malformed.

* `text` : a text of any of the four sorts.
* `key` : a text on one line, or a bare word.
-/

namespace ApiContract.Toml

/-- Blanks within a line. -/
def isBlank (c : Char) : Bool := c == ' ' || c == '\t'

/-- The text from its first character that is no blank. -/
def skipBlanks (s : List Char) : List Char := s.dropWhile isBlank

/-- Characters that may stand in texts and comments: no control characters but the tab. -/
def isPlain (c : Char) : Bool := c == '\t' || (' ' ≤ c && c != '\x7f')

/-- The text behind a line break: a line feed, or a carriage return with a line feed. -/
def lineBreak? : List Char → Option (List Char)
  | '\n' :: rest => some rest
  | '\r' :: '\n' :: rest => some rest
  | _ => none

/-- The character that a one-letter escape stands for. -/
def escaped? : Char → Option Char
  | 'b' => some '\x08'
  | 't' => some '\t'
  | 'n' => some '\n'
  | 'f' => some '\x0c'
  | 'r' => some '\r'
  | '"' => some '"'
  | '\\' => some '\\'
  | _ => none

/-- The character behind a backslash. -/
def escape : List Char → Option (Char × List Char)
  | 'u' :: rest => Text.charOfHex? 4 rest
  | 'U' :: rest => Text.charOfHex? 8 rest
  | c :: rest => (escaped? c).map fun c => (c, rest)
  | [] => none

/-- Reads a text on one line up to the quote `close`, added to `acc` from the back. -/
def line (close : Char) (acc : List Char) (s : List Char) : Nat → Option (String × List Char)
  | 0 => none
  | fuel + 1 =>
    match s with
    | [] => none
    | c :: rest =>
      if c = close then some (String.ofList acc.reverse, rest)
      else if c = '\\' ∧ close = '"' then
        match escape rest with
        | some (c, rest) => line close (c :: acc) rest fuel
        | none => none
      else if isPlain c then line close (c :: acc) rest fuel
      else none

/-- The text behind a backslash at the end of a line: blanks and line breaks do not count. -/
def continued (s : List Char) : Option (List Char) :=
  (lineBreak? (skipBlanks s)).map skipLines
where
  /-- The text from its first character that is neither blank nor line break. -/
  skipLines : List Char → List Char
    | '\r' :: '\n' :: rest => skipLines rest
    | c :: rest => if isBlank c || c == '\n' then skipLines rest else c :: rest
    | [] => []

/-- Reads a text on several lines up to three quotes `close`, added to `acc` from the back. One or
two quotes may stand inside, also right in front of the last three. -/
def lines (close : Char) (acc : List Char) (s : List Char) : Nat → Option (String × List Char)
  | 0 => none
  | fuel + 1 =>
    match s with
    | [] => none
    | c :: rest =>
      if c = close then
        let run := (s.takeWhile (· = close)).length
        if run < 3 then
          lines close (List.replicate run close ++ acc) (s.drop run) fuel
        else
          let inside := min (run - 3) 2
          some (String.ofList (List.replicate inside close ++ acc).reverse, s.drop (inside + 3))
      else if c = '\\' ∧ close = '"' then
        match escape rest, continued rest with
        | some (c, rest), _ => lines close (c :: acc) rest fuel
        | none, some rest => lines close acc rest fuel
        | none, none => none
      else
        match lineBreak? s with
        | some rest => lines close ('\n' :: acc) rest fuel
        | none => if isPlain c then lines close (c :: acc) rest fuel else none

/-- Whether a character is a quote. -/
def isQuote (c : Char) : Bool := c == '"' || c == '\''

/-- Reads a text on one line from its opening quote on. -/
def lineText (s : List Char) : Option (String × List Char) :=
  match s with
  | c :: rest => if isQuote c then line c [] rest (rest.length + 1) else none
  | [] => none

/-- Reads a text from its opening quotes on. A line break right behind three quotes does not
count. -/
def text (s : List Char) : Option (String × List Char) :=
  match s with
  | a :: b :: c :: rest =>
    if isQuote a && a == b && b == c then
      lines a [] ((lineBreak? rest).getD rest) (rest.length + 1)
    else lineText s
  | s => lineText s

/-- Characters of bare keys. -/
def isKeyChar (c : Char) : Bool := c.isAlphanum || c == '-' || c == '_'

/-- Reads a part of a key. -/
def key (s : List Char) : Option (String × List Char) :=
  match s.takeWhile isKeyChar with
  | [] => lineText s
  | word => some (String.ofList word, s.dropWhile isKeyChar)

/-- The greatest number of parts of a key, and of levels of nesting. -/
def depthLimit : Nat := 79

/-- Reads a key: parts with dots between them, and blanks around each. -/
def path (s : List Char) : Nat → Option (List String × List Char)
  | 0 => none
  | parts + 1 => do
    let (first, rest) ← key (skipBlanks s)
    match skipBlanks rest with
    | '.' :: rest =>
      let (others, rest) ← path rest parts
      return (first :: others, rest)
    | rest => return ([first], rest)

/-- The text behind a comment, if one starts here. -/
def skipComment : List Char → List Char
  | '#' :: rest => rest.dropWhile isPlain
  | s => s

/-- The text behind the rest of a line: blanks, a comment, and a line break or the end. -/
def lineRest? (s : List Char) : Option (List Char) :=
  match skipComment (skipBlanks s) with
  | [] => some []
  | s => lineBreak? s

end ApiContract.Toml
