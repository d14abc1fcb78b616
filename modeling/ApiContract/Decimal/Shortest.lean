import ApiContract.Decimal.Binary64
/-!
# Shortest decimals

The text of a double is the shortest decimal that reads back as the same double, and of those the
nearest. `shortest` finds it by trying grids of 1, 2, …, 17 digits: on each grid only the two
neighbours of the value have to be tested, in exact arithmetic. `FloatLayout` says how the digits
are then set out, and `FloatLayout.write` does it.

* `reals` : the interval of numbers that round to a double, its ends included for an even
  significand.
* `shortest` : digits and power of ten.
-/

namespace ApiContract.Decimal

/-- The numbers that round to a finite double: `low ≤ 4 · n ≤ high` in units of `1 / scale`, ends
included when `closed`. The value itself is `4 · mid`. -/
structure Interval where
  low : Nat
  mid : Nat
  high : Nat
  scale : Nat
  closed : Bool
deriving Repr

/-- The interval that rounds to a finite positive double. The gap below a power of two is half the
gap above it. -/
def reals (x : Binary64) : Interval :=
  let (m, e) := x.magnitude
  let narrow := m = Nat.pow 2 52 ∧ -1074 < e
  let up := if e < 0 then 1 else Nat.pow 2 e.toNat
  let below := if narrow then 1 else 2
  ⟨(4 * m - below) * up, 4 * m * up, (4 * m + 2) * up, if e < 0 then Nat.pow 2 (-e).toNat else 1,
    m % 2 = 0⟩

/-- Whether `4 · n / d` lies in the interval. -/
def Interval.contains (i : Interval) (n d : Nat) : Bool :=
  let v := 4 * n * i.scale
  if i.closed then i.low * d ≤ v && v ≤ i.high * d else i.low * d < v && v < i.high * d

/-- The point of the grid of multiples of `step / d` in the interval that is nearest to its middle,
a tie going to the even multiple. -/
def Interval.pick (i : Interval) (step d : Nat) : Option Nat :=
  let floor := i.mid * d / (4 * i.scale * step)
  let lower := i.contains (floor * step) d && 0 < floor
  let upper := i.contains ((floor + 1) * step) d
  let below := i.mid * d - 4 * i.scale * (floor * step)
  let above := 4 * i.scale * ((floor + 1) * step) - i.mid * d
  if lower && upper then
    if below < above then some floor
    else if above < below then some (floor + 1)
    else some (if floor % 2 = 0 then floor else floor + 1)
  else if lower then some floor
  else if upper then some (floor + 1)
  else none

/-- Searches grids with finer and finer steps, starting at `10 ^ exponent`. -/
def search (i : Interval) (exponent : Int) : Nat → Nat × Int
  | 0 => (0, exponent)
  | tries + 1 =>
    let hit := if exponent < 0 then i.pick 1 (Nat.pow 10 (-exponent).toNat)
      else i.pick (Nat.pow 10 exponent.toNat) 1
    match hit with
    | some n => (n, exponent)
    | none => search i (exponent - 1) tries

/-- Drops zeros at the end of `n`, counting them into the exponent. -/
def dropZeros (n : Nat) (exponent : Int) : Nat × Int :=
  if h : n ≠ 0 ∧ n % 10 = 0 then dropZeros (n / 10) (exponent + 1) else (n, exponent)
termination_by n
decreasing_by omega

/-- The shortest decimal `n · 10 ^ e` that reads back as a finite positive double. The first grid
is coarser than the double, the last one finer than any gap between doubles. -/
def shortest (x : Binary64) : Nat × Int :=
  let (m, e) := x.magnitude
  let top : Int := (Nat.log2 m + e) * 30103 / 100000 + 1
  let (n, k) := search (reals x) top 20
  dropZeros n k

/-- How digits are set out: with `point` the place of the decimal point counted from the first
digit, positional notation is used for `leastPoint < point ≤ greatestPoint`, and scientific
notation elsewhere, its positive exponents signed or not. -/
structure FloatLayout where
  leastPoint : Int
  greatestPoint : Int
  signedExponent : Bool

/-- Decimal digits of a natural number. -/
def digits (n : Nat) : List Char := Nat.toDigits 10 n

/-- Sets out the digits of `n` with the decimal point at `point`. A number has a fraction or an
exponent in any case. -/
def FloatLayout.place (layout : FloatLayout) (n : Nat) (point : Int) : List Char :=
  let ds := digits n
  if layout.leastPoint < point ∧ point ≤ layout.greatestPoint then
    if point ≤ 0 then '0' :: '.' :: (List.replicate (-point).toNat '0' ++ ds)
    else if ds.length ≤ point.toNat then
      ds ++ List.replicate (point.toNat - ds.length) '0' ++ ['.', '0']
    else ds.take point.toNat ++ '.' :: ds.drop point.toNat
  else
    let fraction := match ds.tail with
      | [] => []
      | rest => '.' :: rest
    let power := point - 1
    let sign := if power < 0 then ['-'] else if layout.signedExponent then ['+'] else []
    ds.take 1 ++ fraction ++ 'e' :: (sign ++ digits power.natAbs)

/-- The text of a finite double. -/
def FloatLayout.write (layout : FloatLayout) (x : Binary64) : String :=
  let sign := if x.isNegative then ['-'] else []
  if x.isZero then String.ofList (sign ++ ['0', '.', '0'])
  else
    let (n, e) := shortest x
    String.ofList (sign ++ layout.place n (e + (digits n).length))

end ApiContract.Decimal
