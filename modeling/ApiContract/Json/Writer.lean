import ApiContract.Json.Basic
import ApiContract.Decimal.Shortest
/-!
# Writing JSON

* `Json.compact` : the text without any blanks.
* `Json.pretty` : one member or item a line, two blanks of indentation a level.

Quotes, backslashes and characters below the blank are escaped; everything else stands for itself.
Doubles are positional while their decimal point lies within sixteen digits.
-/

namespace ApiContract.Json

/-- Doubles in JSON text: exponents carry a sign. -/
def floatLayout : Decimal.FloatLayout := ⟨-5, 16, true⟩

/-- A lower-case hexadecimal digit. -/
def hexDigit (n : Nat) : Char := Nat.digitChar n

/-- A character inside a quoted text. -/
def escape (c : Char) : List Char :=
  if c = '"' then ['\\', '"']
  else if c = '\\' then ['\\', '\\']
  else if c = '\n' then ['\\', 'n']
  else if c = '\r' then ['\\', 'r']
  else if c = '\t' then ['\\', 't']
  else if c = '\x08' then ['\\', 'b']
  else if c = '\x0c' then ['\\', 'f']
  else if c.toNat < 32 then
    ['\\', 'u', '0', '0', hexDigit (c.toNat / 16), hexDigit (c.toNat % 16)]
  else [c]

/-- A text in quotes. -/
def quoted (s : String) : String := String.ofList ('"' :: (s.toList.flatMap escape ++ ['"']))

/-- The text of a double; infinities and NaN have none and are written as null. -/
def floatText (x : Binary64) : String := if x.isFinite then floatLayout.write x else "null"

/-- The text of a value that holds no other values. -/
def leafText : Json → String
  | .null => "null"
  | .bool true => "true"
  | .bool false => "false"
  | .int n =>
    String.ofList (if n < 0 then '-' :: Decimal.digits n.natAbs else Decimal.digits n.natAbs)
  | .float x => floatText x
  | .str s => quoted s
  | .arr _ => "[]"
  | .obj _ => "\x7b\x7d"

mutual

/-- The text without blanks. -/
def compact : Json → String
  | .arr items => "[" ++ compactItems items ++ "]"
  | .obj members => "\x7b" ++ compactMembers members ++ "\x7d"
  | value => leafText value

/-- Items with commas between them. -/
def compactItems : List Json → String
  | [] => ""
  | [item] => compact item
  | item :: rest => compact item ++ "," ++ compactItems rest

/-- Members with commas between them. -/
def compactMembers : List (String × Json) → String
  | [] => ""
  | [(key, value)] => quoted key ++ ":" ++ compact value
  | (key, value) :: rest => quoted key ++ ":" ++ compact value ++ "," ++ compactMembers rest

end

/-- A line feed and the indentation of a level. -/
def newline (level : Nat) : String := String.ofList ('\n' :: List.replicate (2 * level) ' ')

mutual

/-- The indented text of a value that stands at a level. -/
def prettyAt (level : Nat) : Json → String
  | .arr (item :: rest) => "[" ++ prettyItems (level + 1) (item :: rest) ++ newline level ++ "]"
  | .obj (member :: rest) =>
    "\x7b" ++ prettyMembers (level + 1) (member :: rest) ++ newline level ++ "\x7d"
  | value => leafText value

/-- Items on lines of their own. -/
def prettyItems (level : Nat) : List Json → String
  | [] => ""
  | [item] => newline level ++ prettyAt level item
  | item :: rest => newline level ++ prettyAt level item ++ "," ++ prettyItems level rest

/-- Members on lines of their own. -/
def prettyMembers (level : Nat) : List (String × Json) → String
  | [] => ""
  | [(key, value)] => newline level ++ quoted key ++ ": " ++ prettyAt level value
  | (key, value) :: rest =>
    newline level ++ quoted key ++ ": " ++ prettyAt level value ++ "," ++ prettyMembers level rest

end

/-- The indented text. -/
def pretty (value : Json) : String := prettyAt 0 value

end ApiContract.Json
