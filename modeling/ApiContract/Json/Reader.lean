import ApiContract.Source.Reading
import ApiContract.Text.Digit
/-!
# Reading JSON text

`Json.readSource` reads a text as a source tree. Each reader takes the text that is left and gives
what it read and what is then left; `none` in the place of the rest says that the text stopped
being well formed, and the tree read so far then ends in `Tree.broken`. What is well formed and
still has no value can be skipped, but not used: doubles out of range, texts with half a surrogate
pair, and collections below 127 levels of nesting.

* `number` : the grammar of numbers. Integers that fit 64 bits stay integers; every other number
  is a double, read by `Binary64.scaleTen` from at most as many digits as fit 64 bits.
* `string` : texts with their escapes.
* `readSource` : the tree of a text, and whether nothing but blanks followed it.
-/

namespace ApiContract.Json

open Text

/-- The blanks that may stand between the parts of a JSON text. -/
def isSpace (c : Char) : Bool := c == ' ' || c == '\n' || c == '\t' || c == '\r'

/-- The text from its first character that is no blank. -/
def skipSpace (s : List Char) : List Char := s.dropWhile isSpace

/-- Four hexadecimal digits. -/
def hexFour (s : List Char) : Option (Nat × List Char) :=
  let ds := s.take 4
  if ds.length < 4 then none else (natOfDigits? 16 ds).map fun n => (n, s.drop 4)

/-- The character that a one-letter escape stands for. -/
def escaped? : Char → Option Char
  | '"' => some '"'
  | '\\' => some '\\'
  | '/' => some '/'
  | 'b' => some '\x08'
  | 'f' => some '\x0c'
  | 'n' => some '\n'
  | 'r' => some '\r'
  | 't' => some '\t'
  | _ => none

/-- The character behind `\u`: one unit, or two units that form a surrogate pair. A half of a pair
alone is no character. -/
def unicodeEscape (s : List Char) : Option (Option Char × List Char) := do
  let (unit, rest) ← hexFour s
  if 0xD800 ≤ unit ∧ unit < 0xDC00 then
    match lowHalf rest with
    | some (low, rest) =>
      return (some (Char.ofNat (0x10000 + (unit - 0xD800) * 0x400 + (low - 0xDC00))), rest)
    | none => return (none, rest)
  else if 0xDC00 ≤ unit ∧ unit < 0xE000 then return (none, rest)
  else return (some (Char.ofNat unit), rest)
where
  /-- The second half of a pair. -/
  lowHalf : List Char → Option (Nat × List Char)
    | '\\' :: 'u' :: more => (hexFour more).filter fun (low, _) => 0xDC00 ≤ low ∧ low < 0xE000
    | _ => none

/-- The rest of a text after its opening quote, read into `acc` from the back; `none` in its place
is a text that is no text because half a pair stands in it. -/
def stringBody (fuel : Nat) (acc : Option (List Char)) (s : List Char) :
    Option (Option (List Char) × List Char) :=
  match fuel with
  | 0 => none
  | fuel + 1 =>
    match s with
    | [] => none
    | '"' :: rest => some (acc.map List.reverse, rest)
    | '\\' :: 'u' :: rest =>
      match unicodeEscape rest with
      | some (some c, rest) => stringBody fuel (acc.map (c :: ·)) rest
      | some (none, rest) => stringBody fuel none rest
      | none => none
    | '\\' :: e :: rest =>
      match escaped? e with
      | some c => stringBody fuel (acc.map (c :: ·)) rest
      | none => none
    | c :: rest =>
      if c.toNat < 32 ∨ c = '\\' then none else stringBody fuel (acc.map (c :: ·)) rest

/-- A text after its opening quote, as a tree. -/
def string (fuel : Nat) (s : List Char) : Option (Tree × List Char) :=
  (stringBody fuel (some []) s).map fun
    | (some body, rest) => (.ofText (String.ofList body), rest)
    | (none, rest) => (.ofAtom .other, rest)

/-- The greatest significand of a number text. -/
def significandLimit : Nat := Nat.pow 2 64

/-- Adds decimal digits to a significand while it stays below the limit. Gives the significand, the
number of digits taken, and the digits that found no room. -/
def takeDigits (significand taken : Nat) : List Char → Nat × Nat × List Char
  | [] => (significand, taken, [])
  | c :: rest =>
    let next := significand * 10 + (c.toNat - 48)
    if next < significandLimit then takeDigits next (taken + 1) rest
    else (significand, taken, c :: rest)

/-- An exponent part: its value, or `none` where no digit follows. A text without exponent has
exponent zero. -/
def exponentPart (s : List Char) : Option (Int × List Char) :=
  match s with
  | c :: rest =>
    if c = 'e' ∨ c = 'E' then
      let (negative, rest) := match rest with
        | '+' :: rest => (false, rest)
        | '-' :: rest => (true, rest)
        | rest => (false, rest)
      let (ds, rest) := spanDigits rest
      if ds.isEmpty then none
      else
        let n : Int := ((takeDigits 0 0 ds).1 : Nat)
        some (if negative then -n else n, rest)
    else some (0, s)
  | [] => some (0, s)

/-- A double from the digits before and after the point and an exponent; one out of range is no
value. -/
def double (negative : Bool) (whole fraction : List Char) (exponent : Int) : Atom :=
  let (significand, _, dropped) := takeDigits 0 0 whole
  let (significand, taken, _) := takeDigits significand 0 fraction
  match Binary64.scaleTen significand (exponent + dropped.length - taken) with
  | some x => .float (if negative then x.neg else x)
  | none => .other

/-- A number. -/
def number (s : List Char) : Option (Atom × List Char) :=
  let (negative, s) := match s with
    | '-' :: rest => (true, rest)
    | s => (false, s)
  let (whole, rest) := spanDigits s
  match whole with
  | [] => none
  | '0' :: _ :: _ => none
  | _ =>
    match rest with
    | '.' :: rest => do
      let (fraction, rest) := spanDigits rest
      if fraction.isEmpty then none
      let (exponent, rest) ← exponentPart rest
      return (double negative whole fraction exponent, rest)
    | c :: _ =>
      if c = 'e' ∨ c = 'E' then do
        let (exponent, rest) ← exponentPart rest
        return (double negative whole [] exponent, rest)
      else return (integer negative whole, rest)
    | [] => return (integer negative whole, rest)
where
  /-- Integers that fit 64 bits, signed or not; `-0` and all others are doubles. -/
  integer (negative : Bool) (whole : List Char) : Atom :=
    let (n, _, dropped) := takeDigits 0 0 whole
    if dropped.isEmpty && !negative then .int n
    else if dropped.isEmpty && n != 0 && n ≤ Nat.pow 2 63 then .int (-(n : Int))
    else double negative whole [] 0

/-- The rest of a text after a literal word. -/
def literal (word : String) (s : List Char) : Option (List Char) :=
  if word.toList.isPrefixOf s then some (s.drop word.length) else none

/-- A tree of one scalar and the rest, or a broken tree. -/
def leaf (result : Option (Tree × List Char)) : Tree × Option (List Char) :=
  match result with
  | some (t, rest) => (t, some rest)
  | none => (.broken, none)

/-- A collection with so many levels of nesting left for it. -/
def nested (levels : Nat) (collection : Tree) : Tree :=
  if levels = 0 then .marked collection else collection

mutual

/-- A value, with so many levels of nesting left. -/
def value (fuel : Nat) (levels : Nat) (s : List Char) : Tree × Option (List Char) :=
  match fuel with
  | 0 => (.broken, none)
  | fuel + 1 =>
    match skipSpace s with
    | '"' :: rest => leaf (string fuel rest)
    | '[' :: rest =>
      let (ts, rest) := items fuel (levels - 1) true rest
      (nested levels (.seq ts), rest)
    | '\x7b' :: rest =>
      let (es, rest) := entries fuel (levels - 1) true rest
      (nested levels (.map es), rest)
    | 'n' :: rest => leaf ((literal "ull" rest).map fun rest => (.ofAtom .null, rest))
    | 't' :: rest => leaf ((literal "rue" rest).map fun rest => (.ofAtom (.bool true), rest))
    | 'f' :: rest => leaf ((literal "alse" rest).map fun rest => (.ofAtom (.bool false), rest))
    | s => leaf ((number s).map fun (a, rest) => (.ofAtom a, rest))

/-- The items of a list up to its closing bracket. -/
def items (fuel : Nat) (levels : Nat) (first : Bool) (s : List Char) :
    List Tree × Option (List Char) :=
  match fuel with
  | 0 => ([.broken], none)
  | fuel + 1 =>
    match skipSpace s with
    | ']' :: rest => ([], some rest)
    | s =>
      let start := if first then some s else match s with
        | ',' :: rest => match skipSpace rest with
          | ']' :: _ => none
          | rest => some rest
        | _ => none
      match start with
      | none => ([.broken], none)
      | some s =>
        match value fuel levels s with
        | (t, none) => ([t], none)
        | (t, some rest) =>
          let (ts, rest) := items fuel levels false rest
          (t :: ts, rest)

/-- The members of an object up to its closing brace. -/
def entries (fuel : Nat) (levels : Nat) (first : Bool) (s : List Char) :
    List (Tree × Tree) × Option (List Char) :=
  match fuel with
  | 0 => ([(.broken, .broken)], none)
  | fuel + 1 =>
    match skipSpace s with
    | '\x7d' :: rest => ([], some rest)
    | s =>
      let start := if first then some s else match s with
        | ',' :: rest => some (skipSpace rest)
        | _ => none
      match start with
      | some ('"' :: rest) =>
        match string fuel rest with
        | none => ([(.broken, .broken)], none)
        | some (key, rest) =>
          match skipSpace rest with
          | ':' :: rest =>
            match value fuel levels rest with
            | (t, none) => ([(key, t)], none)
            | (t, some rest) =>
              let (es, rest) := entries fuel levels false rest
              ((key, t) :: es, rest)
          | _ => ([(key, .broken)], none)
      | _ => ([(.broken, .broken)], none)

end

/-- What a JSON text reads as. -/
def readSource (text : String) : Source :=
  let s := text.toList
  match value (3 * s.length + 3) 127 s with
  | (tree, some rest) => { tree, ended := (skipSpace rest).isEmpty }
  | (tree, none) => { tree, ended := false }

end ApiContract.Json
