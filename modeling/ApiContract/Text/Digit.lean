/-!
# Digits

Numbers from their digits, in bases up to sixteen.
-/

namespace ApiContract.Text

/-- The value of a digit of a base up to sixteen. -/
def digitValue? (base : Nat) (c : Char) : Option Nat :=
  let v := if c.isDigit then c.toNat - 48
    else if 'a' ≤ c ∧ c ≤ 'f' then c.toNat - 87
    else if 'A' ≤ c ∧ c ≤ 'F' then c.toNat - 55
    else 16
  if v < base then some v else none

/-- The value of a non-empty sequence of digits of a base. -/
def natOfDigits? (base : Nat) (ds : List Char) : Option Nat :=
  if ds.isEmpty then none
  else ds.foldl (fun n c => n.bind fun n => (digitValue? base c).map (n * base + ·)) (some 0)

/-- The value of a sequence of decimal digits. -/
def natOfDecimal (ds : List Char) : Nat := ds.foldl (fun n c => n * 10 + (c.toNat - 48)) 0

/-- The digits at the start of a text, and the rest. -/
def spanDigits (s : List Char) : List Char × List Char :=
  (s.takeWhile Char.isDigit, s.dropWhile Char.isDigit)

/-- The character with a code: any but a half of a surrogate pair. -/
def charOfCode? (n : Nat) : Option Char :=
  if h : n.isValidChar then some (Char.ofNatAux n h) else none

/-- The character whose code the first so many hexadecimal digits of a text give, and the rest. -/
def charOfHex? (length : Nat) (s : List Char) : Option (Char × List Char) :=
  let ds := s.take length
  if ds.length < length then none
  else ((natOfDigits? 16 ds).bind charOfCode?).map fun c => (c, s.drop length)

end ApiContract.Text
