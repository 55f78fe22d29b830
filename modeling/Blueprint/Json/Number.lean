import Blueprint.Decimal.Power
import Blueprint.Document.Cursor

/-!
Numbers in JSON texts. Digits are gathered into a significand of 64 bits while they fit; further
digits of the whole part only raise the exponent, further digits behind the point are dropped. The
significand is then scaled by one power of ten, so the last digits of a long number may round
differently from the number that is written.
-/

namespace Blueprint.Json

open Document

def invalidNumber : String := "invalid number"

def endInValue : String := "EOF while parsing a value"

inductive Number where
  | int (n : Int)
  | float (x : Float)

/-- What a text reads as, and where reading goes on for someone who has no use for the value. -/
structure Outcome (β : Type) where
  value : Except Fault β
  next : Except Fault Cursor

def Outcome.fail {β : Type} (value skip : Fault) : Outcome β := ⟨.error value,.error skip⟩

def digitValue (c : Char) : Nat := c.toNat - '0'.toNat

/-- Gather digits while the significand fits; how many were taken. -/
def gather (significand : Nat) : List Char → Nat × Nat
  | [] => (significand,0)
  | d :: rest =>
    let next := significand * 10 + digitValue d
    if next < Decimal.twoPow 64 then
      let (final,count) := gather next rest
      (final,count + 1)
    else (significand,0)

def powerOfTen (n : Nat) : Float := Float.ofScientific 1 false n

/-- The greatest exponent of ten that a float can have. -/
def greatestPower : Nat := 308

/-- Scale a number by a power of ten; `none` when it grows out of range. Three steps down take any
significand to zero. -/
def scaleBy : (steps : Nat) → Float → Int → Option Float
  | 0, x, _ => some x
  | steps + 1, x, e =>
    if e.natAbs ≤ greatestPower then
      if 0 ≤ e then
        let y := x * powerOfTen e.natAbs
        if y.isInf then none else some y
      else some (x / powerOfTen e.natAbs)
    else if x == 0 then some x
    else if 0 ≤ e then none
    else scaleBy steps (x / powerOfTen greatestPower) (e + greatestPower)

/-- The written parts of a number. -/
structure NumberParts where
  negative : Bool
  whole : List Char
  fraction : List Char
  hasFraction : Bool
  /-- The sign of the exponent, its digits, and where they begin. -/
  exponent : Option (Bool × List Char × Nat)
  /-- The index behind the number. -/
  stop : Nat

/-- The first place where the digits of an exponent exceed 31 bits. -/
def overflowsAt? (value : Nat) : (index : Nat) → List Char → Option Nat
  | _, [] => none
  | i, d :: rest =>
    let next := value * 10 + digitValue d
    if next < Decimal.twoPow 31 then overflowsAt? next (i + 1) rest else some (i + 1)

def digitsValue (ds : List Char) : Nat := ds.foldl (fun n d => n * 10 + digitValue d) 0

def signedFloat (negative : Bool) (x : Float) : Float := if negative then -x else x

def NumberParts.value (p : NumberParts) : Except Fault Number :=
  let (whole,taken) := gather 0 p.whole
  let dropped := p.whole.length - taken
  let (significand,behind) := gather whole p.fraction
  let shift : Int := (dropped : Int) - behind
  let outOfRange := faultAt "number out of range"
  let scaled (e : Int) : Except Fault Number :=
    match scaleBy 4 (Float.ofNat significand) e with
    | some x => .ok (.float (signedFloat p.negative x))
    | none => .error (outOfRange p.stop)
  match p.exponent with
  | some (down,ds,start) =>
    match overflowsAt? 0 start ds with
    | some i =>
      if significand ≠ 0 && !down then .error (outOfRange i)
      else .ok (.float (signedFloat p.negative 0))
    | none => scaled (if down then shift - digitsValue ds else shift + digitsValue ds)
  | none =>
    if p.hasFraction || dropped ≠ 0 then scaled shift
    else if !p.negative then .ok (.int whole)
    else if whole = 0 ∨ Decimal.twoPow 63 < whole then .ok (.float (-(Float.ofNat whole)))
    else .ok (.int (-(whole : Int)))

/-- Read the exponent, if there is one, and evaluate the number. -/
def readExponent (negative : Bool) (whole fraction : List Char) (hasFraction : Bool) (c : Cursor) :
    Outcome Number :=
  let finish (exponent : Option (Bool × List Char × Nat)) (c : Cursor) : Outcome Number :=
    ⟨NumberParts.value ⟨negative,whole,fraction,hasFraction,exponent,c.index⟩,.ok c⟩
  match c.rest with
  | e :: _ =>
    if e = 'e' || e = 'E' then
      let c := c.advance
      let (down,c) :=
        match c.rest with
        | '+' :: _ => (false,c.advance)
        | '-' :: _ => (true,c.advance)
        | _ => (false,c)
      match c.rest with
      | [] => .fail (faultAt endInValue c.index) (faultAt invalidNumber c.index)
      | d :: _ =>
        if d.isDigit then
          let (ds,after) := c.takeWhile Char.isDigit
          finish (some (down,ds,c.index)) after
        else .fail (faultAt invalidNumber c.peeked) (faultAt invalidNumber c.peeked)
    else finish none c
  | [] => finish none c

/-- Read what follows the whole part. -/
def readFraction (negative : Bool) (whole : List Char) (c : Cursor) : Outcome Number :=
  match c.rest with
  | '.' :: _ =>
    let c := c.advance
    let (ds,after) := c.takeWhile Char.isDigit
    if ds.isEmpty then
      let value := if c.rest.isEmpty then endInValue else invalidNumber
      .fail (faultAt value c.peeked) (faultAt invalidNumber c.peeked)
    else readExponent negative whole ds true after
  | _ => readExponent negative whole [] false c

/-- Read a number at its sign or first digit. No digit may follow a leading zero. -/
def readNumber (c : Cursor) : Outcome Number :=
  let (negative,c) :=
    match c.rest with
    | '-' :: _ => (true,c.advance)
    | _ => (false,c)
  match c.rest with
  | [] => .fail (faultAt endInValue c.index) (faultAt invalidNumber c.index)
  | d :: _ =>
    let (ds,after) := c.takeWhile Char.isDigit
    if ds.isEmpty then .fail (faultAt invalidNumber c.peeked) (faultAt invalidNumber c.peeked)
    else if d = '0' && ds.length ≠ 1 then
      .fail (faultAt invalidNumber (c.index + 2)) (faultAt invalidNumber (c.index + 2))
    else readFraction negative ds after

end Blueprint.Json
