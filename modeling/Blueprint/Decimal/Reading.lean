import Blueprint.Decimal.Power

/-!
Decimal texts read as floats, rounded once.
-/

namespace Blueprint.Decimal

/-- No float has a greater power of ten than this, nor a smaller one than its negative. -/
def exponentLimit : Int := 400

def infinity : Float := 1 / 0

def notANumber : Float := 0 / 0

/-- The float nearest to `digits * 10 ^ exponent`. -/
def nearest (digits : Nat) (exponent : Int) : Float :=
  let leading := (Nat.toDigits 10 digits).length + exponent
  if digits = 0 then 0
  else if exponentLimit < leading then infinity
  else if leading < -exponentLimit then 0
  else Float.ofScientific digits (exponent < 0) exponent.natAbs

def digitsToNat (ds : List Char) : Nat := ds.foldl (fun n d => n * 10 + (d.toNat - '0'.toNat)) 0

/-- Read digits with an optional point and exponent; one digit at least stands before or behind the
point. -/
def unsigned? (text : List Char) : Option Float :=
  let (whole,rest) := text.span Char.isDigit
  let (fraction,rest) :=
    match rest with
    | '.' :: r => r.span Char.isDigit
    | _ => ([],rest)
  if whole.isEmpty && fraction.isEmpty then none
  else
    let mantissa := digitsToNat (whole ++ fraction)
    let shift : Int := -(fraction.length : Int)
    match rest with
    | [] => some (nearest mantissa shift)
    | e :: r =>
      if e = 'e' || e = 'E' then
        let (down,ds) :=
          match r with
          | '-' :: r => (true,r)
          | '+' :: r => (false,r)
          | _ => (false,r)
        if ds.isEmpty || !ds.all Char.isDigit then none
        else
          let e : Int := digitsToNat ds
          some (nearest mantissa (if down then shift - e else shift + e))
      else none

/-- Read a float as the command line writes it, words for infinity and for no number included. -/
def float? (text : List Char) : Option Float :=
  let (negative,rest) :=
    match text with
    | '-' :: r => (true,r)
    | '+' :: r => (false,r)
    | _ => (false,text)
  let word := String.ofList (rest.map Char.toLower)
  let value :=
    if word == "inf" || word == "infinity" then some infinity
    else if word == "nan" then some notANumber
    else unsigned? rest
  value.map fun x => if negative then -x else x

/-- Read a whole number of at most 64 bits. -/
def word64? (text : List Char) : Option Nat :=
  let rest :=
    match text with
    | '+' :: r => r
    | _ => text
  if rest.isEmpty || !rest.all Char.isDigit then none
  else
    let n := digitsToNat rest
    if n < twoPow 64 then some n else none

end Blueprint.Decimal
