import ApiContract.Text.Digit
import ApiContract.Yaml.Cursor
/-!
# Reading scalars

Each reader starts behind the mark that opens a scalar and gives the text of the scalar and the
place behind it; `none` where the scalar is malformed. Readers carry a bound that is to exceed the
number of characters left: each step leaves a character behind.

* `Gap` : the blanks and line breaks between two words of a scalar. A single line break becomes a
  blank, of several breaks all but the first stay.
* `plainScalar`, `quotedScalar`, `blockScalar` : the three sorts of scalars.
-/

namespace ApiContract.Yaml

/-- Blanks and line breaks between two words: blanks on the line of the first word, the first line
break, and the further line breaks. `broken` says that there was a line break. -/
structure Gap where
  broken : Bool := false
  spaces : List Char := []
  first : List Char := []
  others : List Char := []
deriving Repr, Inhabited

/-- What a gap stands for. -/
def Gap.text (g : Gap) : List Char :=
  if g.broken then
    if g.first == ['\n'] then if g.others.isEmpty then [' '] else g.others
    else g.first ++ g.others
  else g.spaces

/-- Reads a gap. Behind a line break no tab may stand before the column `indent`. -/
def readGap (indent : Int) (g : Gap) (c : Cursor) : Nat → Option (Gap × Cursor)
  | 0 => none
  | fuel + 1 =>
    match c.rest with
    | [] => some (g, c)
    | char :: _ =>
      if isBlank char then
        if g.broken then
          if char == '\t' && c.column < indent then none else readGap indent g c.next fuel
        else readGap indent { g with spaces := g.spaces ++ [char] } c.next fuel
      else if isBreak char then
        let (kept, c) := c.lineBreak
        if g.broken then readGap indent { g with others := g.others ++ kept } c fuel
        else readGap indent { g with broken := true, spaces := [], first := kept } c fuel
      else some (g, c)

namespace Plain

/-- Characters that end a word inside brackets. -/
def isFlowIndicator (c : Char) : Bool :=
  c == ',' || c == '[' || c == ']' || c == '\x7b' || c == '\x7d'

/-- Reads a word, added to `acc` from the back. Inside brackets a colon may not stand before an
indicator. -/
def word (flow : Bool) (acc : List Char) (c : Cursor) : Nat → Option (List Char × Cursor)
  | 0 => none
  | fuel + 1 =>
    match c.rest with
    | [] => some (acc, c)
    | char :: rest =>
      if isBlank char || isBreak char then some (acc, c)
      else if flow && char == ':' && rest.head?.any (fun d => isFlowIndicator d || d == '?') then
        none
      else if (char == ':' && endsWord rest) || (flow && isFlowIndicator char) then some (acc, c)
      else word flow (char :: acc) c.next fuel

/-- Reads words and the gaps between them. Gives the text from the back, whether a line break
followed it, and the place where the scalar is known to have ended. -/
def words (flow : Bool) (indent : Int) (acc : List Char) (gap : Gap) (c : Cursor) :
    Nat → Option (List Char × Bool × Cursor)
  | 0 => none
  | fuel + 1 =>
    if c.atDocumentEdge || c.isAt '#' then some (acc, gap.broken, c)
    else
      match word flow [] c (fuel + 1) with
      | none => none
      | some ([], c) => some (acc, gap.broken, c)
      | some (read, c) =>
        let acc := read ++ gap.text.reverse ++ acc
        if !(c.atBlank || c.atBreak) then some (acc, false, c)
        else
          match readGap indent {} c (fuel + 1) with
          | none => none
          | some (gap, c) =>
            if !flow && c.column < indent then some (acc, gap.broken, c)
            else words flow indent acc gap c fuel

end Plain

/-- Reads a plain scalar: its text, whether a line break followed, and the place behind it. `flow`
says that it stands inside brackets, and `indent` is the least column of its further lines. -/
def plainScalar (bound : Nat) (flow : Bool) (indent : Int) (c : Cursor) :
    Option (String × Bool × Cursor) :=
  (Plain.words flow indent [] {} c bound).map fun (acc, broken, c) =>
    (String.ofList acc.reverse, broken, c)

namespace Quoted

/-- The character that a one-letter escape stands for. -/
def escaped? : Char → Option Char
  | '0' => some '\x00'
  | 'a' => some '\x07'
  | 'b' => some '\x08'
  | 't' => some '\t'
  | '\t' => some '\t'
  | 'n' => some '\n'
  | 'v' => some '\x0b'
  | 'f' => some '\x0c'
  | 'r' => some '\r'
  | 'e' => some '\x1b'
  | ' ' => some ' '
  | '"' => some '"'
  | '/' => some '/'
  | '\\' => some '\\'
  | 'N' => some '\u0085'
  | '_' => some '\u00a0'
  | 'L' => some '\u2028'
  | 'P' => some '\u2029'
  | _ => none

/-- The number of digits behind a letter that starts a character code. -/
def codeLength? : Char → Option Nat
  | 'x' => some 2
  | 'u' => some 4
  | 'U' => some 8
  | _ => none

/-- Reads what a backslash and the letter behind it start; `c` is the place of the backslash. -/
def escape (c : Cursor) : Option (Char × Cursor) := do
  let letter ← c.next.head?
  let after := c.skip 2
  match escaped? letter with
  | some char => return (char, after)
  | none =>
    let length ← codeLength? letter
    let (char, _) ← Text.charOfHex? length after.rest
    return (char, after.skip length)

/-- Reads characters up to a blank, a line break or the closing quote, added to `acc` from the back.
Gives also whether the last line break was escaped. -/
def word (single : Bool) (acc : List Char) (c : Cursor) :
    Nat → Option (List Char × Bool × Cursor)
  | 0 => none
  | fuel + 1 =>
    match c.rest with
    | [] => some (acc, false, c)
    | char :: rest =>
      if isBlank char || isBreak char then some (acc, false, c)
      else if single then
        if char == '\'' then
          if rest.head? == some '\'' then word single ('\'' :: acc) (c.skip 2) fuel
          else some (acc, false, c)
        else word single (char :: acc) c.next fuel
      else if char == '"' then some (acc, false, c)
      else if char == '\\' then
        if rest.head?.any isBreak then some (acc, true, c.next.nextLine)
        else
          match escape c with
          | some (char, c) => word single (char :: acc) c fuel
          | none => none
      else word single (char :: acc) c.next fuel

/-- Reads words and gaps up to the closing quote. -/
def words (single : Bool) (acc : List Char) (c : Cursor) : Nat → Option (List Char × Cursor)
  | 0 => none
  | fuel + 1 =>
    if c.atDocumentEdge || c.atEnd then none
    else
      match word single acc c (fuel + 1) with
      | none => none
      | some (acc, escapedBreak, c) =>
        if c.isAt (if single then '\'' else '"') then some (acc, c.next)
        else
          match readGap 0 { broken := escapedBreak } c (fuel + 1) with
          | none => none
          | some (gap, c) => words single (gap.text.reverse ++ acc) c fuel

end Quoted

/-- Reads a quoted scalar behind its opening quote. -/
def quotedScalar (bound : Nat) (single : Bool) (c : Cursor) : Option (String × Cursor) :=
  (Quoted.words single [] c bound).map fun (acc, c) =>
    (String.ofList acc.reverse, c)

/-- What happens to line breaks at the end of a block: all but the first are dropped, all are
dropped, or all are kept. -/
inductive Chomping where
  | clip
  | strip
  | keep
deriving DecidableEq, Repr, Inhabited

namespace Block

/-- The chomping that an indicator asks for. -/
def chomping? : Char → Option Chomping
  | '+' => some .keep
  | '-' => some .strip
  | _ => none

/-- Reads an indentation indicator: a digit other than zero, or none. -/
def increment (c : Cursor) : Option (Nat × Cursor) :=
  match c.head? with
  | some d =>
    if d.isDigit then if d == '0' then none else some (d.toNat - 48, c.next) else some (0, c)
  | none => some (0, c)

/-- Reads the head of a block: chomping and indentation, in either order. -/
def head (c : Cursor) : Option (Chomping × Nat × Cursor) :=
  match c.head?.bind chomping? with
  | some chomping => (increment c.next).map fun (n, c) => (chomping, n, c)
  | none => do
    let (n, c) ← increment c
    if n = 0 then return (.clip, 0, c)
    match c.head?.bind chomping? with
    | some chomping => return (chomping, n, c.next)
    | none => return (.clip, n, c)

/-- Skips blanks in front of the column `indent`, or all of them while that is not known. -/
def skipIndent (indent : Nat) (c : Cursor) : Nat → Cursor
  | 0 => c
  | fuel + 1 =>
    if (indent == 0 || c.column < indent) && c.isAt ' ' then skipIndent indent c.next fuel else c

/-- Reads empty lines. Gives their line breaks, and the greatest column reached; no tab may stand in
front of the column `indent`. -/
def breaks (indent : Nat) (read : List Char) (widest : Nat) (c : Cursor) :
    Nat → Option (List Char × Nat × Cursor)
  | 0 => none
  | fuel + 1 =>
    let c := skipIndent indent c (fuel + 1)
    let widest := max widest c.column
    if (indent == 0 || c.column < indent) && c.isAt '\t' then none
    else if c.atBreak then
      let (kept, c) := c.lineBreak
      breaks indent (read ++ kept) widest c fuel
    else some (read, widest, c)

/-- A line break in front of a line: between two lines of a folded block that start with no blank it
is folded. -/
def joined (folded : Bool) (first others : List Char) (wasBlank isBlank : Bool) : List Char :=
  if folded && first == ['\n'] && !wasBlank && !isBlank then
    if others.isEmpty then [' '] else others
  else first ++ others

/-- Reads the lines of a block that stand in the column `indent`. `first` and `others` are the line
breaks behind the line before, and `wasBlank` says that it started with a blank. -/
def lines (folded : Bool) (indent : Nat) (acc first others : List Char) (wasBlank : Bool)
    (c : Cursor) : Nat → Option (List Char × List Char × List Char × Cursor)
  | 0 => none
  | fuel + 1 =>
    if c.column == indent && !c.atEnd then
      let blank := c.atBlank
      let before := joined folded first others wasBlank blank
      let (line, c) := c.takeWhile fun char => !isBreak char
      let acc := line.reverse ++ before.reverse ++ acc
      let (first, c) := c.lineBreak
      match breaks indent [] 0 c (fuel + 1) with
      | none => none
      | some (others, _, c) => lines folded indent acc first others blank c fuel
    else some (acc, first, others, c)

end Block

/-- Reads a block scalar behind the mark that opens it; `parent` is the column of the collection
that holds it. -/
def blockScalar (bound : Nat) (folded : Bool) (parent : Int) (c : Cursor) :
    Option (String × Cursor) := do
  let (chomping, increment, c) ← Block.head c
  let c ← c.lineRest?
  let given : Nat := if increment = 0 then 0 else (max parent 0).toNat + increment
  let (others, widest, c) ← Block.breaks given [] 0 c bound
  let indent := if given = 0 then max (max widest (parent + 1).toNat) 1 else given
  let (acc, first, others, c) ← Block.lines folded indent [] [] others false c bound
  let ending := match chomping with
    | .clip => first
    | .strip => []
    | .keep => first ++ others
  return (String.ofList (acc.reverse ++ ending), c)

end ApiContract.Yaml
