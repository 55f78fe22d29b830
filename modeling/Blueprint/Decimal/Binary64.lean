import Blueprint.Decimal.Power

/-!
The exact value of a binary floating-point number. A finite float is a whole number of units of a
power of two; everything that is said about its decimal texts is said about that value.
-/

namespace Blueprint.Decimal

/-- The number `significand * 2 ^ exponent`, negated when `negative` holds. Zero keeps its sign. -/
structure Dyadic where
  negative : Bool
  significand : Nat
  exponent : Int
  deriving DecidableEq, Repr, Inhabited

/-- What the bits of a float stand for. -/
inductive Reading where
  | nan
  | infinite (negative : Bool)
  | finite (value : Dyadic)
  deriving DecidableEq, Repr, Inhabited

/-- The reading of 64 bits: one of sign, eleven of exponent, fifty-two of fraction. -/
def Reading.ofBits (bits : Nat) : Reading :=
  let negative := bits / twoPow 63 % 2 == 1
  let field : Nat := bits / twoPow 52 % twoPow 11
  let fraction : Nat := bits % twoPow 52
  if field == 2047 then
    if fraction == 0 then .infinite negative else .nan
  else if field == 0 then .finite ⟨negative,fraction,-1074⟩
  else .finite ⟨negative,fraction + twoPow 52,(field : Int) - 1075⟩

def Reading.ofFloat (x : Float) : Reading := .ofBits x.toBits.toNat

/-- The magnitude of a dyadic number as a quotient of naturals. -/
def Dyadic.quotient (d : Dyadic) : Nat × Nat :=
  if 0 ≤ d.exponent then (d.significand * twoPow d.exponent.toNat,1)
  else (d.significand,twoPow (-d.exponent).toNat)

theorem Dyadic.quotient_den_pos (d : Dyadic) : 0 < d.quotient.2 := by
  unfold Dyadic.quotient
  split
  · exact Nat.one_pos
  · exact twoPow_pos _

/-- The remainder of a finite float after taking out whole multiples of `n`, with the sign of the
float. It is always a float itself, so nothing is rounded. -/
def remainder (x : Float) (n : Nat) : Float :=
  match Reading.ofFloat x with
  | .finite d =>
    let rest :=
      if 0 ≤ d.exponent then Float.ofNat (d.significand * twoPow d.exponent.toNat % n)
      else (Float.ofNat (d.significand % (n * twoPow (-d.exponent).toNat))).scaleB d.exponent
    if d.negative then -rest else rest
  | _ => x - x

end Blueprint.Decimal
