import ApiContract.Source.PlainScalar
/-!
# Numbers and dates in TOML

* `number` : integers of 64 bits, in four bases, doubles, and dates and times. Dates and times are
  checked and are then values that nothing expects.
-/

namespace ApiContract.Toml

open Text

/-- A sign or none, and whether it is a minus sign. -/
def sign : List Char → Bool × List Char
  | '-' :: rest => (true, rest)
  | '+' :: rest => (false, rest)
  | s => (false, s)

/-- Further digits of a class, each alone or behind an underscore. -/
def moreDigits (isDigit : Char → Bool) : List Char → List Char × List Char
  | '_' :: c :: rest =>
    if isDigit c then
      let (ds, rest) := moreDigits isDigit rest
      (c :: ds, rest)
    else ([], '_' :: c :: rest)
  | c :: rest =>
    if isDigit c then
      let (ds, rest) := moreDigits isDigit rest
      (c :: ds, rest)
    else ([], c :: rest)
  | [] => ([], [])

/-- Digits of a class, the first of them without an underscore. -/
def someDigits (isDigit : Char → Bool) : List Char → Option (List Char × List Char)
  | c :: rest =>
    if isDigit c then
      let (ds, rest) := moreDigits isDigit rest
      some (c :: ds, rest)
    else none
  | [] => none

/-- The digits of a decimal integer: a zero, or digits that start with another one. -/
def decimalDigits : List Char → Option (List Char × List Char)
  | '0' :: rest => some (['0'], rest)
  | s => someDigits Char.isDigit s

/-- An integer, if it has 64 bits. -/
def integerAtom (n : Int) : Option Atom :=
  if -(Nat.pow 2 63 : Int) ≤ n ∧ n < (Nat.pow 2 63 : Int) then some (.int n) else none

/-- Reads an integer of a base behind its mark. -/
def basedInteger (base : Nat) (s : List Char) : Option (Atom × List Char) := do
  let (ds, rest) ← someDigits (fun c => (digitValue? base c).isSome) s
  let n ← natOfDigits? base ds
  let atom ← integerAtom n
  return (atom, rest)

/-- Reads an integer. -/
def integer (s : List Char) : Option (Atom × List Char) :=
  match s with
  | '0' :: 'x' :: rest => basedInteger 16 rest
  | '0' :: 'o' :: rest => basedInteger 8 rest
  | '0' :: 'b' :: rest => basedInteger 2 rest
  | s => do
    let (negative, s) := sign s
    let (ds, rest) ← decimalDigits s
    let n : Int := natOfDecimal ds
    let atom ← integerAtom (if negative then -n else n)
    return (atom, rest)

/-- Reads an exponent: its value, or zero where there is none. -/
def exponent (s : List Char) : Option (Int × List Char) :=
  match s with
  | c :: rest =>
    if c = 'e' ∨ c = 'E' then do
      let (negative, rest) := sign rest
      let (ds, rest) ← someDigits Char.isDigit rest
      let n : Int := natOfDecimal ds
      return (if negative then -n else n, rest)
    else some (0, s)
  | [] => some (0, s)

/-- Reads a double: an integer with a fraction, an exponent, or both. One too large is refused where
it is positive, and negative infinity where it is negative. -/
def decimal (s : List Char) : Option (Atom × List Char) := do
  let (negative, s) := sign s
  let (whole, s) ← decimalDigits s
  let (fraction, s) ← match s with
    | '.' :: rest => someDigits Char.isDigit rest
    | c :: _ => if c = 'e' ∨ c = 'E' then some ([], s) else none
    | [] => none
  let (power, s) ← exponent s
  let x := Binary64.ofDecimal negative (natOfDecimal (whole ++ fraction)) (power - fraction.length)
  if x.isFinite || negative then return (.float x, s)
  none

/-- Reads an infinity or NaN. -/
def special (s : List Char) : Option (Atom × List Char) :=
  match sign s with
  | (negative, 'i' :: 'n' :: 'f' :: rest) => some (.float (Binary64.infinity negative), rest)
  | (_, 'n' :: 'a' :: 'n' :: rest) => some (.float Binary64.nan, rest)
  | _ => none

/-- Reads a number of exactly so many digits that lies between two bounds. -/
def field (width least greatest : Nat) (s : List Char) : Option (Nat × List Char) :=
  let ds := s.take width
  if ds.length = width ∧ ds.all Char.isDigit then
    let n := natOfDecimal ds
    if least ≤ n ∧ n ≤ greatest then some (n, s.drop width) else none
  else none

/-- Reads a character. -/
def char (c : Char) : List Char → Option (List Char)
  | d :: rest => if c = d then some rest else none
  | [] => none

/-- The number of days of a month. -/
def daysOfMonth (year month : Nat) : Nat :=
  if month = 2 then
    if year % 4 = 0 ∧ (year % 100 ≠ 0 ∨ year % 400 = 0) then 29 else 28
  else if month = 4 ∨ month = 6 ∨ month = 9 ∨ month = 11 then 30 else 31

/-- Reads a date. -/
def date (s : List Char) : Option (List Char) := do
  let (year, s) ← field 4 0 9999 s
  let (month, s) ← field 2 1 12 (← char '-' s)
  let (_, s) ← field 2 1 (daysOfMonth year month) (← char '-' s)
  return s

/-- Reads a time of day. -/
def time (s : List Char) : Option (List Char) := do
  let (_, s) ← field 2 0 23 s
  let (_, s) ← field 2 0 59 (← char ':' s)
  let (_, s) ← field 2 0 60 (← char ':' s)
  match s with
  | '.' :: rest =>
    if rest.head?.any Char.isDigit then return rest.dropWhile Char.isDigit else return s
  | s => return s

/-- Reads the distance of a time from the standard time, if there is one. -/
def offset (s : List Char) : List Char :=
  let hours (rest : List Char) : Option (List Char) := do
    let (_, s) ← field 2 0 23 rest
    let (_, s) ← field 2 0 59 (← char ':' s)
    return s
  match s with
  | c :: rest =>
    if c = 'Z' ∨ c = 'z' then rest
    else if c = '+' ∨ c = '-' then (hours rest).getD s
    else s
  | [] => s

/-- Reads a date, a time, or both. -/
def dateTime (s : List Char) : Option (Atom × List Char) :=
  match date s with
  | some afterDate =>
    let behind := match afterDate with
      | c :: rest => if c = 'T' ∨ c = 't' ∨ c = ' ' then time rest else none
      | [] => none
    match behind with
    | some rest => some (.other, offset rest)
    | none => some (.other, afterDate)
  | none => (time s).map fun rest => (.other, rest)

/-- Reads a number, a date or a time. -/
def number (s : List Char) : Option (Atom × List Char) :=
  (((dateTime s).or (decimal s)).or (special s)).or (integer s)

end ApiContract.Toml
