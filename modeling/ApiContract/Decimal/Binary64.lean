/-!
# Double-precision numbers

A `Binary64` is the 64 bits of an IEEE 754 double. Values are built by exact arithmetic on natural
numbers and one rounding, `ofRatio`, to the nearest double, halves to the even neighbour; so every
definition here can be evaluated and compared.

* `ofRatio` : the double nearest to a quotient.
* `magnitude` : a finite double is `m · 2 ^ e` for its magnitude `(m, e)`.
* `scaleTen` : a 64-bit significand times a power of ten, the rule by which number texts are read
  where one rounding of the significand and one of the product are prescribed.
* `ofDecimal` : the double nearest to a decimal, where the text is to be read exactly.
-/

namespace ApiContract

/-- An IEEE 754 double, by its bits. -/
structure Binary64 where
  bits : UInt64
deriving DecidableEq, Repr, Inhabited

namespace Binary64

/-- The double with a sign and a magnitude counted in units of the least positive double's order:
the bits below the sign. -/
def ofParts (negative : Bool) (unsigned : Nat) : Binary64 :=
  ⟨UInt64.ofNat (unsigned + if negative then Nat.pow 2 63 else 0)⟩

/-- The bits below the sign. -/
def unsigned (x : Binary64) : Nat := x.bits.toNat % Nat.pow 2 63

/-- Whether the sign bit is set. -/
def isNegative (x : Binary64) : Bool := Nat.pow 2 63 ≤ x.bits.toNat

/-- The bits of positive infinity. -/
def infinityBits : Nat := 2047 * Nat.pow 2 52

/-- Neither an infinity nor a NaN. -/
def isFinite (x : Binary64) : Bool := x.unsigned < infinityBits

/-- Whether a double is a NaN. -/
def isNaN (x : Binary64) : Bool := infinityBits < x.unsigned

/-- Whether a double is one of the two zeros. -/
def isZero (x : Binary64) : Bool := x.unsigned == 0

/-- Positive or negative infinity. -/
def infinity (negative : Bool) : Binary64 := ofParts negative infinityBits

/-- A quiet NaN. -/
def nan : Binary64 := ofParts false (infinityBits + Nat.pow 2 51)

/-- `num / den` to the nearest natural number, a half to the even one. -/
def roundDiv (num den : Nat) : Nat :=
  let whole : Nat := num / den
  let twice : Nat := 2 * (num % den)
  if twice < den then whole
  else if den < twice then whole + 1
  else if whole % 2 = 0 then whole else whole + 1

/-- The exponent of the greatest power of two that is at most `num / den`. -/
def binaryExponent (num den : Nat) : Int :=
  let guess : Int := (Nat.log2 num : Int) - (Nat.log2 den : Int)
  let reached := if guess < 0 then den ≤ num * Nat.pow 2 (-guess).toNat
    else den * Nat.pow 2 guess.toNat ≤ num
  if reached then guess else guess - 1

/-- The double nearest to `± num / den`, halves to the even neighbour, an infinity where the
quotient is too large. -/
def ofRatio (negative : Bool) (num den : Nat) : Binary64 :=
  if num = 0 then ofParts negative 0
  else
    let unit : Int := max (binaryExponent num den - 52) (-1074)
    let m := if unit < 0 then roundDiv (num * Nat.pow 2 (-unit).toNat) den
      else roundDiv num (den * Nat.pow 2 unit.toNat)
    ofParts negative (min ((unit + 1074).toNat * Nat.pow 2 52 + m) infinityBits)

/-- The double nearest to an integer. -/
def ofInt (n : Int) : Binary64 := ofRatio (n < 0) n.natAbs 1

/-- The numbers `m` and `e` with which a finite double is `± m · 2 ^ e`. -/
def magnitude (x : Binary64) : Nat × Int :=
  let field : Nat := x.unsigned / Nat.pow 2 52
  let fraction : Nat := x.unsigned % Nat.pow 2 52
  if field = 0 then (fraction, -1074) else (fraction + Nat.pow 2 52, (field : Int) - 1075)

/-- The magnitude of a finite double as a quotient of natural numbers. -/
def quotient (x : Binary64) : Nat × Nat :=
  let (m, e) := x.magnitude
  if e < 0 then (m, Nat.pow 2 (-e).toNat) else (m * Nat.pow 2 e.toNat, 1)

/-- The product of two finite doubles, rounded once. -/
def mul (x y : Binary64) : Binary64 :=
  let (a, b) := x.quotient
  let (c, d) := y.quotient
  ofRatio (x.isNegative != y.isNegative) (a * c) (b * d)

/-- The quotient of two finite doubles, the second not zero, rounded once. -/
def div (x y : Binary64) : Binary64 :=
  let (a, b) := x.quotient
  let (c, d) := y.quotient
  ofRatio (x.isNegative != y.isNegative) (a * d) (b * c)

/-- The same magnitude with the other sign. -/
def neg (x : Binary64) : Binary64 := ofParts (!x.isNegative) x.unsigned

/-- The double nearest to a power of ten. -/
def powTen (n : Nat) : Binary64 := ofRatio false (Nat.pow 10 n) 1

/-- Divides by `10 ^ n` in steps of at most `10 ^ 308`, the greatest power of ten below the
infinities, each step rounded. -/
def divTen (x : Binary64) (n : Nat) : Binary64 :=
  if n ≤ 308 then x.div (powTen n)
  else if x.isZero then x
  else divTen (x.div (powTen 308)) (n - 308)
termination_by n

/-- `significand · 10 ^ exponent` by one rounding of the significand and one of the product;
`none` where that is too large. -/
def scaleTen (significand : Nat) (exponent : Int) : Option Binary64 :=
  let x := ofRatio false significand 1
  if exponent < 0 then some (x.divTen (-exponent).toNat)
  else if exponent.toNat ≤ 308 then
    let product := x.mul (powTen exponent.toNat)
    if product.isFinite then some product else none
  else if x.isZero then some x
  else none

/-- The double nearest to `± significand · 10 ^ exponent`. Exponents far outside the range of
doubles are settled by the number of digits, so that no huge power is formed. -/
def ofDecimal (negative : Bool) (significand : Nat) (exponent : Int) : Binary64 :=
  let digits : Int := ((Nat.log2 significand / 3 + 1 : Nat) : Int)
  if significand = 0 then ofParts negative 0
  else if exponent < 0 then
    if exponent + digits < -400 then ofParts negative 0
    else ofRatio negative significand (Nat.pow 10 (-exponent).toNat)
  else if 400 < exponent then infinity negative
  else ofRatio negative (significand * Nat.pow 10 exponent.toNat) 1

end Binary64

end ApiContract
