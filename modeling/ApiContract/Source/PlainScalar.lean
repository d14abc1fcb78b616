import ApiContract.Source.Tree
import ApiContract.Text.Digit
/-!
# Unquoted scalars

In YAML a word without quotes may mean more than its text: nothing, a truth value, an integer, a
number. `Atom.ofPlain` says what it means.

* `realOfText?` : the double nearest to a decimal text.
* `isPaddedNumber` : digits behind a leading zero, which stay a text.
* `Atom.ofPlain` : the value of an unquoted word.
-/

namespace ApiContract

open Text

/-- An exponent behind a mantissa: `e`, a sign or none, and digits. Nothing means zero. -/
def exponentOfText? : List Char → Option Int
  | [] => some 0
  | c :: rest =>
    if c = 'e' ∨ c = 'E' then
      match rest with
      | '-' :: ds => (natOfDigits? 10 ds).map fun n => -(n : Int)
      | '+' :: ds => (natOfDigits? 10 ds).map Int.ofNat
      | ds => (natOfDigits? 10 ds).map Int.ofNat
    else none

/-- The double nearest to a decimal text: a sign or none, digits with at most one point among them,
and an exponent or none. A text too large for a double gives an infinity. -/
def decimalOfText? (s : List Char) : Option Binary64 := do
  let (negative, s) := match s with
    | '-' :: rest => (true, rest)
    | '+' :: rest => (false, rest)
    | s => (false, s)
  let (whole, s) := spanDigits s
  let (fraction, s) := match s with
    | '.' :: rest => spanDigits rest
    | s => ([], s)
  if whole.isEmpty && fraction.isEmpty then none
  let exponent ← exponentOfText? s
  return Binary64.ofDecimal negative (natOfDecimal (whole ++ fraction)) (exponent - fraction.length)

/-- The number that an unquoted text stands for where a number is expected. -/
def realOfText? (s : List Char) : Option Binary64 :=
  let unsigned? := match s with
    | '+' :: '+' :: _ => none
    | '+' :: '-' :: _ => none
    | '+' :: rest => some rest
    | s => some s
  match unsigned? with
  | none => none
  | some unsigned =>
    if [".inf", ".Inf", ".INF"].contains (String.ofList unsigned) then
      some (Binary64.infinity false)
    else if ["-.inf", "-.Inf", "-.INF"].contains (String.ofList s) then
      some (Binary64.infinity true)
    else if [".nan", ".NaN", ".NAN"].contains (String.ofList s) then some Binary64.nan
    else (decimalOfText? unsigned).filter (·.isFinite)

/-- Whether a text consists of a sign or none and of digits of which the first of several is
zero. -/
def isPaddedNumber (s : List Char) : Bool :=
  let s := match s with
    | '-' :: rest => rest
    | '+' :: rest => rest
    | s => s
  match s with
  | '0' :: c :: rest => (c :: rest).all Char.isDigit
  | _ => false

/-- The natural number that digits stand for: decimal, or hexadecimal, octal or binary behind `0x`,
`0o` or `0b`. -/
def natOfUnsigned? (s : List Char) : Option Nat :=
  let based := match s with
    | '0' :: 'x' :: ds => natOfDigits? 16 ds
    | '0' :: 'o' :: ds => natOfDigits? 8 ds
    | '0' :: 'b' :: ds => natOfDigits? 2 ds
    | _ => none
  match based with
  | some n => some n
  | none => if isPaddedNumber s then none else natOfDigits? 10 s

/-- The natural number that a text stands for, with a plus sign or none. -/
def natOfSigned? (s : List Char) : Option Nat :=
  match s with
  | '+' :: rest => natOfUnsigned? rest
  | s => natOfUnsigned? s

/-- The integer that a text stands for, with a sign or none. -/
def intOfText? (s : List Char) : Option Int :=
  match s with
  | '-' :: rest => (natOfUnsigned? rest).map fun n => -(n : Int)
  | s => (natOfSigned? s).map Int.ofNat

/-- Whether a word stands for nothing. -/
def isNullWord (word : String) : Bool := ["~", "null", "Null", "NULL"].contains word

/-- The truth value that a word stands for. -/
def boolOfText? (word : String) : Option Bool :=
  if ["true", "True", "TRUE"].contains word then some true
  else if ["false", "False", "FALSE"].contains word then some false
  else none

namespace Atom

/-- The value of an integer. Integers beyond 64 bits, up to 128, are values of a sort that nothing
expects; there is none for larger ones. -/
def ofInt? (n : Int) : Option Atom :=
  if -(Nat.pow 2 63 : Int) ≤ n ∧ n < (Nat.pow 2 64 : Int) then some (.int n)
  else if -(Nat.pow 2 127 : Int) ≤ n ∧ n < (Nat.pow 2 128 : Int) then some .other
  else none

/-- The value of an unquoted word. Integers that are too large for integers are doubles. -/
def ofPlain (s : List Char) : Atom :=
  let word := String.ofList s
  if word = "" || isNullWord word then .null
  else
    match boolOfText? word with
    | some b => .bool b
    | none =>
      match (intOfText? s).bind ofInt? with
      | some a => a
      | none =>
        if isPaddedNumber s then .text word
        else
          match realOfText? s with
          | some x => .float x
          | none => .text word

end Atom

end ApiContract
