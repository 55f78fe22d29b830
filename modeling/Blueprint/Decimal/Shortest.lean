import Blueprint.Decimal.Binary64
import Blueprint.Decimal.Rounding

/-!
The shortest decimal that reads back as a given float. The reals that round to a float form an
interval around its value, ends included when the significand is even. On each decimal grid only
the value's two neighbours matter: if any point of the grid lies in the interval, one of them does.
The coarsest grid with a hit gives the digits, the nearer of two hits wins.
-/

namespace Blueprint.Decimal

/-- The number `digits * 10 ^ exponent`. -/
structure Scaled where
  digits : Nat
  exponent : Int
  deriving DecidableEq, Repr, Inhabited

/-- Drop the zeros at the end of a positive number's digits. -/
def Scaled.trim (s : Scaled) : Scaled :=
  if h : s.digits ≠ 0 ∧ s.digits % 10 = 0 then
    Scaled.trim ⟨s.digits / 10,s.exponent + 1⟩
  else s
termination_by s.digits
decreasing_by omega

/-- A positive value with the interval of reals that round to it, over one denominator. -/
structure Interval where
  low : Nat
  value : Nat
  high : Nat
  den : Nat
  /-- Whether the two ends belong to the interval. -/
  closed : Bool
  deriving DecidableEq, Repr

/-- The interval of a positive dyadic number. The gap below a power of two is half as wide as the
gap above it, unless the float is among the smallest. -/
def Dyadic.interval (d : Dyadic) : Interval :=
  let below := if d.significand == twoPow 52 && -1074 < d.exponent then 1 else 2
  let units := 4 * d.significand
  let e := d.exponent - 2
  let up := if 0 ≤ e then twoPow e.toNat else 1
  let den := if 0 ≤ e then 1 else twoPow (-e).toNat
  ⟨(units - below) * up,units * up,(units + 2) * up,den,d.significand % 2 == 0⟩

/-- Measure the interval in units of `10 ^ unit`. -/
def Interval.inUnits (i : Interval) (unit : Int) : Interval :=
  if 0 ≤ unit then { i with den := i.den * tenPow unit.toNat }
  else
    let up := tenPow (-unit).toNat
    { i with low := i.low * up, value := i.value * up, high := i.high * up }

def Interval.above (i : Interval) (n : Nat) : Bool :=
  if i.closed then i.low ≤ n * i.den else i.low < n * i.den

def Interval.below (i : Interval) (n : Nat) : Bool :=
  if i.closed then n * i.den ≤ i.high else n * i.den < i.high

/-- The whole number of units that lies in the interval, if one does: the nearer of the value's two
neighbours. -/
def Interval.hit? (i : Interval) (tie : Tie) : Option Nat :=
  let floor := i.value / i.den
  match i.above floor && i.below floor, i.above (floor + 1) && i.below (floor + 1) with
  | true, true => some (roundDiv i.value i.den tie)
  | true, false => some floor
  | false, true => some (floor + 1)
  | false, false => none

/-- The power of ten just above a positive value: `10 ^ (k - 1) ≤ value < 10 ^ k`. -/
def Interval.magnitude (i : Interval) : Int :=
  if i.den ≤ i.value then digitCount (i.value / i.den)
  else 1 - (digitCount ((i.den - 1) / i.value) : Int)

/-- The shortest decimal in the interval of a positive dyadic number. Seventeen digits always
suffice. -/
def Dyadic.shortest (d : Dyadic) (tie : Tie) : Scaled :=
  let i := d.interval
  let k := i.magnitude
  let found := (List.range 17).findSome? fun (n : Nat) =>
    let unit := k - ((n : Int) + 1)
    ((i.inUnits unit).hit? tie).map fun digits => Scaled.trim ⟨digits,unit⟩
  found.getD ⟨0,0⟩

end Blueprint.Decimal
