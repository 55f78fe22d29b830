import Blueprint.Decimal.Binary64

/-!
The numbers that plans are measured in. Geometry is written once, over any type of scalars: floats
when a plan is drawn, rationals when a law about exact coordinates is stated. Every operation keeps
the order in which its terms are combined, since float addition is not associative.
-/

namespace Blueprint

class Scalar (α : Type) extends Add α, Sub α, Mul α, Div α, Neg α, LT α, LE α where
  decLt : DecidableLT α
  decLe : DecidableLE α
  /-- The scalar nearest to a quotient of whole numbers. -/
  quotient : Int → Nat → α
  magnitude : α → α
  /-- The smaller of two scalars, the first where they compare equal. -/
  least : α → α → α
  /-- The larger of two scalars, the first where they compare equal. -/
  greatest : α → α → α
  /-- A total order that tells apart all scalars. -/
  precedes : α → α → Bool
  isFinite : α → Bool
  /-- An angle in degrees, taken into one whole turn. -/
  withinTurn : α → α
  /-- The nearest whole number, half-way values going away from zero. -/
  nearestInt : α → Int
  /-- Cosine and sine of an angle in degrees that is no whole number of quarter turns. -/
  cosSin : α → α × α

namespace Scalar
variable {α : Type} [Scalar α]

instance (priority := low) : DecidableLT α := decLt
instance (priority := low) : DecidableLE α := decLe

/-- A whole number as a scalar. -/
def whole (n : Int) : α := quotient n 1

def zero : α := whole 0

/-- The distance within which two coordinates count as one: a billionth. -/
def tolerance : α := quotient 1 1000000000

def half (a : α) : α := a / whole 2

def double (a : α) : α := whole 2 * a

/-- Two coordinates that differ by the tolerance at most. -/
def close (a b : α) : Bool := magnitude (a - b) ≤ tolerance

def positive (a : α) : Bool := isFinite a && zero < a

end Scalar

/-- The order on the bits of floats that puts negative numbers, then zeros with the negative one
first, then positive numbers in a row. -/
def floatRank (x : Float) : Int :=
  let bits := x.toBits.toNat
  if bits < Decimal.twoPow 63 then bits else (Decimal.twoPow 63 : Int) - 1 - bits

instance : Scalar Float where
  decLt := Float.decLt
  decLe := Float.decLe
  quotient n d := Float.ofInt n / Float.ofNat d
  magnitude := Float.abs
  least a b := if a.isNaN then b else if b < a then b else a
  greatest a b := if a.isNaN then b else if a < b then b else a
  precedes a b := floatRank a ≤ floatRank b
  isFinite := Float.isFinite
  withinTurn a :=
    let r := Decimal.remainder a 360
    if r < 0 then r + 360 else r
  nearestInt a := a.round.toInt64.toInt
  cosSin a :=
    let radians := a * 0.017453292519943295
    (radians.cos,radians.sin)

/-- Exact arithmetic knows quarter turns only: any other angle is taken to the nearest one. -/
instance : Scalar Rat where
  decLt := inferInstance
  decLe := inferInstance
  quotient n d := (n : Rat) / (d : Rat)
  magnitude a := if a < 0 then -a else a
  least a b := if b < a then b else a
  greatest a b := if a < b then b else a
  precedes a b := a ≤ b
  isFinite _ := true
  withinTurn a := a - 360 * ((a / 360).floor : Rat)
  nearestInt a := if a < 0 then -((-a + 1 / 2).floor) else (a + 1 / 2).floor
  cosSin a :=
    match (a / 90 + 1 / 2).floor % 4 with
    | 0 => (1,0)
    | 1 => (0,1)
    | 2 => (-1,0)
    | _ => (0,-1)

end Blueprint
