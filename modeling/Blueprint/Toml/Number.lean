import Blueprint.Toml.Moment
import Blueprint.Toml.Text

/-!
Numbers in TOML documents. An underscore may stand between two digits. Whole numbers have 64 bits;
other bases than ten have no sign. A float is the one nearest to the written number; one that is too
great for a float is refused, though one that is too far below zero is not.
-/

namespace Blueprint.Toml

open Document
open Text (hexValue?)

/-- Digits, and underscores between two of them; `none` for an underscore elsewhere. -/
def moreDigits? (isDigit : Char → Bool) : List Char → Option (List Char × List Char)
  | [] => some ([],[])
  | '_' :: d :: rest =>
    if isDigit d then (moreDigits? isDigit rest).map fun (ds,rest) => (d :: ds,rest) else none
  | ['_'] => none
  | d :: rest =>
    if isDigit d then (moreDigits? isDigit rest).map fun (ds,rest) => (d :: ds,rest)
    else some ([],d :: rest)

/-- One digit at least. -/
def digitRun? (isDigit : Char → Bool) (text : List Char) : Option (List Char × List Char) :=
  match text with
  | d :: _ => if isDigit d then moreDigits? isDigit text else none
  | [] => none

/-- The digits of the whole part: no digit follows a leading zero. -/
def wholeDigits? (text : List Char) : Option (List Char × List Char) :=
  match text with
  | '0' :: rest => some (['0'],rest)
  | _ => digitRun? Char.isDigit text

/-- The value of digits of a base. -/
def basedValue (base : Nat) (ds : List Char) : Nat :=
  ds.foldl (fun n d => n * base + (hexValue? d).getD 0) 0

def greatestInt : Int := (Decimal.twoPow 63 : Nat) - 1
def leastInt : Int := -(Decimal.twoPow 63 : Nat)

def intOf? (n : Int) : Option Scalar :=
  if leastInt ≤ n ∧ n ≤ greatestInt then some (.int n) else none

/-- A whole number behind `0x`, `0o` or `0b`. -/
def based? (base : Nat) (isDigit : Char → Bool) (text : List Char) :
    Option (Scalar × List Char) := do
  let (ds,rest) ← digitRun? isDigit text
  return (← intOf? (basedValue base ds),rest)

/-- Read an optional sign. -/
def sign (text : List Char) : Bool × List Char :=
  match text with
  | '-' :: rest => (true,rest)
  | '+' :: rest => (false,rest)
  | _ => (false,text)

/-- Read what may follow the whole part: the digits behind a point. -/
def fraction? (text : List Char) : Option (Option (List Char) × List Char) :=
  match text with
  | '.' :: rest => (digitRun? Char.isDigit rest).map fun (ds,rest) => (some ds,rest)
  | _ => some (none,text)

/-- Read an exponent, if one follows. -/
def exponent? (text : List Char) : Option (Option Int × List Char) :=
  match text with
  | [] => some (none,[])
  | e :: rest =>
    if e = 'e' || e = 'E' then do
      let (negative,rest) := sign rest
      let (ds,rest) ← digitRun? Char.isDigit rest
      let n : Int := Decimal.digitsToNat ds
      return (some (if negative then -n else n),rest)
    else some (none,text)

def signedFloat (negative : Bool) (x : Float) : Float := if negative then -x else x

/-- Read a number of base ten: a whole number, or a float if it has a fraction or an exponent. -/
def decimal? (text : List Char) : Option (Scalar × List Char) := do
  let (negative,rest) := sign text
  let (whole,rest) ← wholeDigits? rest
  let (fraction,rest) ← fraction? rest
  let (exponent,rest) ← exponent? rest
  if fraction.isNone && exponent.isNone then
    let n : Int := Decimal.digitsToNat whole
    return (← intOf? (if negative then -n else n),rest)
  else
    let behind := fraction.getD []
    let x := signedFloat negative
      (Decimal.nearest (Decimal.digitsToNat (whole ++ behind)) (exponent.getD 0 - behind.length))
    if x == Decimal.infinity then none else some (.float x,rest)

/-- Read a number, a date or a time. -/
def number? (text : List Char) : Option (Scalar × List Char) :=
  if startsDate text || startsTime text then
    (moment? text).map fun (m,rest) => (.date m.text,rest)
  else
    match text with
    | '0' :: 'x' :: rest => based? 16 (fun d => (hexValue? d).isSome) rest
    | '0' :: 'o' :: rest => based? 8 (fun d => '0' ≤ d && d ≤ '7') rest
    | '0' :: 'b' :: rest => based? 2 (fun d => d = '0' || d = '1') rest
    | _ =>
      match sign text with
      | (negative,'i' :: 'n' :: 'f' :: rest) =>
        some (.float (signedFloat negative Decimal.infinity),rest)
      | (negative,'n' :: 'a' :: 'n' :: rest) =>
        some (.float (signedFloat negative Decimal.notANumber),rest)
      | _ => decimal? text

end Blueprint.Toml
