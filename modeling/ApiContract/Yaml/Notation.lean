import ApiContract.Json.Basic
import ApiContract.Source.PlainScalar
import ApiContract.Yaml.Character
/-!
# Notations of texts

A YAML text has several notations: plain, in single quotes, in double quotes, and as a literal block
of lines. `textNotation` chooses the plainest one in which the text reads back as itself.

* `readsAsOther` : the text would mean something else without quotes.
* `TextTraits` : where a text has blanks, breaks and indicators, which rule notations out.
-/

namespace ApiContract.Yaml

/-- How a text is written. -/
inductive TextNotation where
  | plain
  | singleQuoted
  | doubleQuoted
  | literal
deriving DecidableEq, Repr, Inhabited

/-- Whether a text without quotes would mean something other than the text. -/
def readsAsOther (s : List Char) : Bool :=
  match Atom.ofPlain s with
  | .text _ => isPaddedNumber s
  | _ => true

/-- What a text holds beside ordinary characters. -/
structure TextTraits where
  breaks : Bool
  edgeSpace : Bool
  edgeBreak : Bool
  finalSpace : Bool
  spaceAfterBreak : Bool
  spaceBeforeBreak : Bool
  unprintable : Bool
  indicator : Bool
deriving DecidableEq, Repr

/-- Whether some character is followed at once by some other one. -/
def followed (first second : Char → Bool) : List Char → Bool
  | c :: d :: rest => (first c && second d) || followed first second (d :: rest)
  | _ => false

/-- Whether a text starts with a character that means something else there. -/
def startsWithIndicator : List Char → Bool
  | [] => false
  | c :: rest =>
    ['#', ',', '[', ']', '\x7b', '\x7d', '&', '*', '!', '|', '>', '\'', '"', '%', '@',
      '\x60'].contains c ||
    ((c == '?' || c == ':' || c == '-') && endsWord rest) ||
    ['-', '-', '-'].isPrefixOf (c :: rest) || ['.', '.', '.'].isPrefixOf (c :: rest)

/-- Whether a colon at the end of a word, or a number sign at the start of one, stands inside. -/
def holdsIndicator : List Char → Bool
  | c :: d :: rest =>
    (d == ':' && endsWord rest) || (d == '#' && endsWord [c]) || holdsIndicator (d :: rest)
  | _ => false

/-- The traits of a text. -/
def TextTraits.ofChars (s : List Char) : TextTraits :=
  let isSpace (c : Char) : Bool := c == ' '
  { breaks := s.any isBreak
    edgeSpace := s.head?.any isSpace || s.getLast?.any isSpace
    edgeBreak := s.head?.any isBreak || s.getLast?.any isBreak
    finalSpace := s.getLast?.any isSpace
    spaceAfterBreak := followed isBreak isSpace s
    spaceBeforeBreak := followed isSpace isBreak s
    unprintable := s.any fun c => !isPrintable c
    indicator := startsWithIndicator s || holdsIndicator s }

namespace TextTraits

/-- Whether a text may be plain. -/
def allowPlain (t : TextTraits) : Bool :=
  !(t.breaks || t.edgeSpace || t.spaceBeforeBreak || t.unprintable || t.indicator)

/-- Whether a text may stand in single quotes. -/
def allowSingle (t : TextTraits) : Bool :=
  !(t.spaceAfterBreak || t.spaceBeforeBreak || t.unprintable)

/-- Whether a text may be a literal block. -/
def allowLiteral (t : TextTraits) : Bool :=
  !(t.finalSpace || t.spaceBeforeBreak || t.unprintable)

end TextTraits

/-- The notation of a text. Texts with line feeds are blocks where they can be; other texts stand in
single quotes where they cannot be plain. What neither can hold stands in double quotes. -/
def textNotation (s : List Char) : TextNotation :=
  let t := TextTraits.ofChars s
  let single := if t.allowSingle then TextNotation.singleQuoted else .doubleQuoted
  if s.contains '\n' then if t.allowLiteral then .literal else .doubleQuoted
  else if readsAsOther s || !t.allowPlain then single
  else .plain

/-- Upper-case hexadecimal digits, so many of them. -/
def hexDigits (n : Nat) : Nat → List Char
  | 0 => []
  | width + 1 => hexDigits (n / 16) width ++ [(Nat.digitChar (n % 16)).toUpper]

/-- A character inside double quotes. -/
def escape (c : Char) : List Char :=
  match c with
  | '\x00' => ['\\', '0']
  | '\x07' => ['\\', 'a']
  | '\x08' => ['\\', 'b']
  | '\t' => ['\\', 't']
  | '\n' => ['\\', 'n']
  | '\x0b' => ['\\', 'v']
  | '\x0c' => ['\\', 'f']
  | '\r' => ['\\', 'r']
  | '\x1b' => ['\\', 'e']
  | '"' => ['\\', '"']
  | '\\' => ['\\', '\\']
  | '\u0085' => ['\\', 'N']
  | '\u2028' => ['\\', 'L']
  | '\u2029' => ['\\', 'P']
  | c =>
    if isPrintable c then [c]
    else if c.toNat ≤ 0xFF then '\\' :: 'x' :: hexDigits c.toNat 2
    else if c.toNat ≤ 0xFFFF then '\\' :: 'u' :: hexDigits c.toNat 4
    else '\\' :: 'U' :: hexDigits c.toNat 8

/-- A text in double quotes. -/
def doubleQuoted (s : List Char) : List Char := '"' :: (s.flatMap escape ++ ['"'])

/-- Blanks before each line of a text; `fresh` says that a line begins. -/
def indentLines (indent : Nat) (fresh : Bool) : List Char → List Char
  | [] => if fresh then List.replicate indent ' ' else []
  | c :: rest =>
    if isBreak c then c :: indentLines indent true rest
    else if fresh then List.replicate indent ' ' ++ c :: indentLines indent false rest
    else c :: indentLines indent false rest

/-- A text in single quotes. Lines after the first are indented. -/
def singleQuoted (indent : Nat) (s : List Char) : List Char :=
  let double (c : Char) : List Char := if c = '\'' then ['\'', '\''] else [c]
  '\'' :: (indentLines indent false (s.flatMap double) ++ ['\''])

/-- The lines of a block, each line that holds something indented. -/
def blockLines (indent : Nat) (fresh : Bool) : List Char → List Char
  | [] => []
  | c :: rest =>
    if isBreak c then c :: blockLines indent true rest
    else if fresh then List.replicate indent ' ' ++ c :: blockLines indent false rest
    else c :: blockLines indent false rest

/-- The head of a block: a hint where the indentation cannot be seen from the first line, and
whether line breaks at the end are dropped, kept once, or all kept. -/
def blockHead (s : List Char) : List Char :=
  let hint := if s.head?.any fun c => c == ' ' || isBreak c then ['2'] else []
  let chomp := match s.reverse with
    | [] => ['-']
    | [last] => if isBreak last then ['+'] else ['-']
    | last :: before :: _ =>
      if !isBreak last then ['-'] else if isBreak before then ['+'] else []
  '|' :: (hint ++ chomp)

/-- A text as a literal block. -/
def literalBlock (indent : Nat) (s : List Char) : List Char :=
  blockHead s ++ '\n' :: blockLines indent true s

/-- A text in its notation, with further lines indented. -/
def writeText (indent : Nat) (s : String) : List Char :=
  let cs := s.toList
  match textNotation cs with
  | .plain => cs
  | .singleQuoted => singleQuoted indent cs
  | .doubleQuoted => doubleQuoted cs
  | .literal => literalBlock indent cs

end ApiContract.Yaml
