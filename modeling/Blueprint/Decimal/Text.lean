import Blueprint.Decimal.Shortest

/-!
The texts of numbers. Drawings and messages write a float plainly: shortest digits, never an
exponent, no point after a whole number. Documents write at least one decimal, and an exponent
outside a range. Reports of lengths write a fixed number of places.
-/

namespace Blueprint.Decimal

/-- The decimal digits of a natural. -/
def digitChars (n : Nat) : List Char := Nat.toDigits 10 n

def zeros (n : Nat) : List Char := List.replicate n '0'

def signed (negative : Bool) (text : List Char) : List Char :=
  if negative then '-' :: text else text

/-- Put a point before the last `places` digits, with zeros in front where there are too few. -/
def point (ds : List Char) (places : Nat) : List Char :=
  let padded := zeros (places + 1 - ds.length) ++ ds
  let whole := padded.length - places
  padded.take whole ++ '.' :: padded.drop whole

/-- Digits in their places, without an exponent. -/
def Scaled.positional (s : Scaled) : List Char :=
  if 0 ≤ s.exponent then digitChars s.digits ++ zeros s.exponent.toNat
  else point (digitChars s.digits) (-s.exponent).toNat

/-- The exponent of a positive number's leading digit. -/
def Scaled.leading (s : Scaled) : Int := (digitChars s.digits).length + s.exponent - 1

/-- One digit, a point if more follow, and the exponent with its sign. -/
def Scaled.scientific (s : Scaled) : List Char :=
  let mantissa :=
    match digitChars s.digits with
    | [] => []
    | [d] => [d]
    | d :: ds => d :: '.' :: ds
  mantissa ++ 'e' :: (if s.leading < 0 then '-' else '+') :: digitChars s.leading.natAbs

/-- The texts of what is no finite number. -/
def notFinite : Reading → List Char
  | .nan => ['N','a','N']
  | .infinite negative => signed negative ['i','n','f']
  | .finite _ => []

/-- The plain text: shortest digits in their places, a tie between two shortest texts going up. -/
def plainChars : Reading → List Char
  | .finite d =>
    signed d.negative (if d.significand = 0 then ['0'] else (d.shortest .up).positional)
  | r => notFinite r

def plain (x : Float) : String := String.ofList (plainChars (.ofFloat x))

/-- How documents write a number: exponents from `least` to `greatest` of the leading digit are
written in place, and a whole number gets one decimal. -/
structure NumberStyle where
  least : Int
  greatest : Int
  tie : Tie
  deriving DecidableEq, Repr

def documentStyle : NumberStyle := ⟨-5,15,.toEven⟩

def NumberStyle.chars (style : NumberStyle) (d : Dyadic) : List Char :=
  signed d.negative <|
    if d.significand = 0 then ['0','.','0']
    else
      let s := d.shortest style.tie
      if style.least ≤ s.leading && s.leading ≤ style.greatest then
        if 0 ≤ s.exponent then s.positional ++ ['.','0'] else s.positional
      else s.scientific

/-- The text of a number in a document; `none` for what is no finite number. -/
def document? (x : Float) : Option String :=
  match Reading.ofFloat x with
  | .finite d => some (String.ofList (documentStyle.chars d))
  | _ => none

/-- The value rounded to a number of decimal places, half-way values going to the even digit. -/
def fixedChars (places : Nat) : Reading → List Char
  | .finite d =>
    let (num,den) := d.quotient
    let whole := digitChars (roundDiv (num * tenPow places) den .toEven)
    signed d.negative (if places = 0 then whole else point whole places)
  | r => notFinite r

def fixed (places : Nat) (x : Float) : String := String.ofList (fixedChars places (.ofFloat x))

end Blueprint.Decimal
