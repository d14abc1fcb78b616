import ApiContract.Text.Alphanumeric
import ApiContract.Text.Digit
/-!
# Regular expressions

Whether a text is well formed as a regular expression: its groups and classes are closed, its
escapes are known, and what is repeated is there. Counted repetitions and boundaries of words are
not among the expressions here.

* `escape?` : what an escape stands for.
* `skipClass?` : what follows a class of characters in brackets.
* `groupHead?` : how a group starts.
* `isRegularExpression` : whether a text is well formed.
-/

namespace ApiContract.Text

/-- What an escape stands for: a character, a sort of characters, or a place in the text. -/
inductive Escape where
  | literal (c : Char)
  | sort
  | place
deriving DecidableEq, Repr

/-- The escape at the start of a text, of which the backslash is gone, and the rest. -/
def escape? : List Char → Option (Escape × List Char)
  | [] => none
  | c :: rest =>
    let code (length : Nat) :=
      (charOfHex? length rest).map fun (c, rest) => (Escape.literal c, rest)
    if c = 'x' then code 2
    else if c = 'u' then code 4
    else if c = 'U' then code 8
    else if c = 'p' ∨ c = 'P' then
      match rest with
      | letter :: rest =>
        if ['c', 'l', 'm', 'n', 'p', 's', 'z'].contains letter.toLower then some (.sort, rest)
        else none
      | [] => none
    else if ['d', 's', 'w', 'D', 'S', 'W'].contains c then some (.sort, rest)
    else if c = 'A' ∨ c = 'z' then some (.place, rest)
    else if ['a', 'f', 't', 'n', 'r', 'v'].contains c then some (.literal c, rest)
    else if c.toNat < 128 ∧ ¬c.isAlphanum ∧ c ≠ '<' ∧ c ≠ '>' then some (.literal c, rest)
    else none

/-! ## Classes of characters -/

/-- The text behind the start of a class, of which the bracket is gone: a caret or none, and dashes,
or else a closing bracket, that stand for themselves. -/
def classStart (s : List Char) : List Char :=
  let s := match s with
    | '^' :: rest => rest
    | s => s
  match s with
  | ']' :: rest => rest
  | s => s.dropWhile (· == '-')

/-- The member at the start of a text, if it is one character that character, and the rest. -/
def classMember? : List Char → Option (Option Char × List Char)
  | [] => none
  | '\\' :: rest =>
    match escape? rest with
    | some (.literal c, rest) => some (some c, rest)
    | some (.sort, rest) => some (none, rest)
    | _ => none
  | c :: rest => some (some c, rest)

/-- The text behind a class that lies inside `outer` others. A range goes from one character to
another that is not before it. -/
def skipClass? (fuel : Nat) (outer : Nat) (s : List Char) : Option (List Char) :=
  match fuel, s with
  | 0, _ => none
  | _, [] => none
  | fuel + 1, '[' :: rest => skipClass? fuel (outer + 1) (classStart rest)
  | fuel + 1, ']' :: rest => if outer = 0 then some rest else skipClass? fuel (outer - 1) rest
  | fuel + 1, '&' :: '&' :: rest => skipClass? fuel outer rest
  | fuel + 1, '-' :: '-' :: rest => skipClass? fuel outer rest
  | fuel + 1, '~' :: '~' :: rest => skipClass? fuel outer rest
  | fuel + 1, s =>
    match classMember? s with
    | none => none
    | some (first, '-' :: c :: rest) =>
      if c = ']' ∨ c = '-' then skipClass? fuel outer ('-' :: c :: rest)
      else
        match first, classMember? (c :: rest) with
        | some first, some (some last, rest) =>
          if first ≤ last then skipClass? fuel outer rest else none
        | _, _ => none
    | some (_, rest) => skipClass? fuel outer rest

/-! ## Groups -/

/-- How a group starts: `switch` changes the way of matching and holds no expression. -/
inductive GroupHead where
  | switch
  | opened (name : Option (List Char))
deriving DecidableEq, Repr

/-- Whether a text is the name of a group. -/
def isGroupName : List Char → Bool
  | [] => false
  | c :: rest =>
    (c == '_' || (isAlphanumeric c && !c.isDigit)) &&
      rest.all fun c => ['_', '.', '[', ']'].contains c || isAlphanumeric c

/-- Whether a text lists ways of matching, each once: those to switch on and, behind a dash, those
to switch off. -/
def isSwitches (s : List Char) : Bool :=
  s.all ['i', 'm', 's', 'U', 'u', 'R', 'x', '-'].contains && s.eraseDups.length == s.length &&
    s.getLast? != some '-'

/-- The head of a group with a name, and the rest. -/
def namedGroup? (s : List Char) : Option (GroupHead × List Char) :=
  let name := s.takeWhile (· != '>')
  match s.drop name.length with
  | [] => none
  | _ :: rest => if isGroupName name then some (.opened name, rest) else none

/-- The head of the group at the start of a text, of which the parenthesis is gone, and the rest. -/
def groupHead? (s : List Char) : Option (GroupHead × List Char) :=
  match s with
  | '?' :: 'P' :: '<' :: rest => namedGroup? rest
  | '?' :: '<' :: rest => namedGroup? rest
  | '?' :: rest =>
    let switches := rest.takeWhile fun c => c != ':' && c != ')'
    if isSwitches switches then
      match rest.drop switches.length with
      | ':' :: rest => some (.opened none, rest)
      | ')' :: rest => if switches = [] then none else some (.switch, rest)
      | _ => none
    else none
  | s => some (.opened none, s)

/-! ## Expressions -/

/-- Whether a character says how often what is before it may occur. -/
def isRepetition (c : Char) : Bool := c == '*' || c == '+' || c == '?'

/-- Whether a text continues an expression of which some groups are still open and some names taken;
`repeatable` says whether there is something before it to repeat. -/
def continuesExpression (fuel : Nat) (groups : Nat) (repeatable : Bool) (names : List (List Char))
    (s : List Char) : Bool :=
  match fuel with
  | 0 => false
  | fuel + 1 =>
    match s with
    | [] => groups == 0
    | '\\' :: rest =>
      match escape? rest with
      | some (_, rest) => continuesExpression fuel groups true names rest
      | none => false
    | '[' :: rest =>
      match skipClass? (rest.length + 1) 0 (classStart rest) with
      | some rest => continuesExpression fuel groups true names rest
      | none => false
    | '(' :: rest =>
      match groupHead? rest with
      | some (.switch, rest) => continuesExpression fuel groups false names rest
      | some (.opened name, rest) =>
        !name.any names.contains &&
          continuesExpression fuel (groups + 1) false (name.toList ++ names) rest
      | none => false
    | ')' :: rest => groups != 0 && continuesExpression fuel (groups - 1) true names rest
    | '|' :: rest => continuesExpression fuel groups false names rest
    | '\x7b' :: _ => false
    | c :: rest =>
      (repeatable || !isRepetition c) && continuesExpression fuel groups true names rest

/-- Whether a text is well formed as a regular expression. -/
def isRegularExpression (s : List Char) : Bool := continuesExpression (s.length + 1) 0 false [] s

end ApiContract.Text
