import Blueprint.Decimal.Reading
import Blueprint.Decimal.Text

/-!
Dates and times as TOML writes them. A day lies in its month; a minute may have a leap second.
-/

namespace Blueprint.Toml

structure Date where
  year : Nat
  month : Nat
  day : Nat
  deriving DecidableEq, Repr

structure Time where
  hour : Nat
  minute : Nat
  second : Nat
  /-- Billionths of a second. -/
  fraction : Nat
  deriving DecidableEq, Repr

/-- How far a clock is ahead of the universal time. -/
inductive Offset where
  | zero
  | minutes (negative : Bool) (count : Nat)
  deriving DecidableEq, Repr

/-- A date, a time or both; an offset belongs to both. -/
structure Moment where
  date : Option Date
  time : Option Time
  offset : Option Offset
  deriving DecidableEq, Repr

def isLeap (year : Nat) : Bool := year % 4 = 0 && (year % 100 ≠ 0 || year % 400 = 0)

def daysIn (year month : Nat) : Nat :=
  if month = 2 then if isLeap year then 29 else 28
  else if month = 4 || month = 6 || month = 9 || month = 11 then 30
  else 31

/-- A number of a fixed count of digits. -/
def digits? (count : Nat) (text : List Char) : Option (Nat × List Char) :=
  let ds := text.take count
  if ds.length = count && ds.all Char.isDigit then
    some (Decimal.digitsToNat ds,text.drop count)
  else none

/-- A number of a fixed count of digits within bounds. -/
def within? (count least greatest : Nat) (text : List Char) : Option (Nat × List Char) := do
  let (n,rest) ← digits? count text
  if least ≤ n ∧ n ≤ greatest then some (n,rest) else none

def char? (d : Char) : List Char → Option (List Char)
  | [] => none
  | c :: rest => if c = d then some rest else none

/-- Whether a text begins with a date: four digits and a dash. -/
def startsDate (text : List Char) : Bool := ((digits? 4 text).bind (char? '-' ·.2)).isSome

/-- Whether a text begins with a time: an hour and a colon. -/
def startsTime (text : List Char) : Bool := ((within? 2 0 23 text).bind (char? ':' ·.2)).isSome

def date? (text : List Char) : Option (Date × List Char) := do
  let (year,rest) ← digits? 4 text
  let (month,rest) ← within? 2 1 12 (← char? '-' rest)
  let (day,rest) ← within? 2 1 (daysIn year month) (← char? '-' rest)
  return (⟨year,month,day⟩,rest)

/-- Billionths of a second from the digits behind the point; further digits are dropped. -/
def billionths (ds : List Char) : Nat :=
  Decimal.digitsToNat (ds.take 9 ++ Decimal.zeros (9 - ds.length))

def time? (text : List Char) : Option (Time × List Char) := do
  let (hour,rest) ← within? 2 0 23 text
  let (minute,rest) ← within? 2 0 59 (← char? ':' rest)
  let (second,rest) ← within? 2 0 60 (← char? ':' rest)
  match rest with
  | '.' :: behind =>
    let (ds,after) := behind.span Char.isDigit
    if ds.isEmpty then return (⟨hour,minute,second,0⟩,rest)
    else return (⟨hour,minute,second,billionths ds⟩,after)
  | _ => return (⟨hour,minute,second,0⟩,rest)

/-- The offset at the start of a text, if one stands there; `none` for one that is cut short. -/
def offset? (text : List Char) : Option (Option Offset × List Char) :=
  match text with
  | [] => some (none,[])
  | d :: rest =>
    if d = 'Z' || d = 'z' then some (some .zero,rest)
    else if d = '+' || d = '-' then do
      let (hour,rest) ← within? 2 0 23 rest
      let (minute,rest) ← within? 2 0 59 (← char? ':' rest)
      return (some (.minutes (d = '-') (hour * 60 + minute)),rest)
    else some (none,text)

/-- Read a date, a date with a time, or a time. A blank behind a date belongs to it only if a time
follows. -/
def moment? (text : List Char) : Option (Moment × List Char) :=
  if startsDate text then do
    let (date,rest) ← date? text
    match rest with
    | d :: behind =>
      if (d = 'T' || d = 't' || d = ' ') && startsTime behind then
        let (time,rest) ← time? behind
        let (offset,rest) ← offset? rest
        return (⟨some date,some time,offset⟩,rest)
      else return (⟨some date,none,none⟩,rest)
    | [] => return (⟨some date,none,none⟩,[])
  else do
    let (time,rest) ← time? text
    return (⟨none,some time,none⟩,rest)

/-! ### The written form -/

/-- Digits of a number, with zeros in front. -/
def padded (count n : Nat) : List Char :=
  let ds := Decimal.digitChars n
  Decimal.zeros (count - ds.length) ++ ds

def Date.chars (d : Date) : List Char :=
  padded 4 d.year ++ '-' :: padded 2 d.month ++ '-' :: padded 2 d.day

def Time.chars (t : Time) : List Char :=
  let whole := padded 2 t.hour ++ ':' :: padded 2 t.minute ++ ':' :: padded 2 t.second
  if t.fraction = 0 then whole
  else whole ++ '.' :: ((padded 9 t.fraction).reverse.dropWhile (· = '0')).reverse

def Offset.chars : Offset → List Char
  | zero => ['Z']
  | minutes negative count =>
    (if negative && count ≠ 0 then '-' else '+') :: padded 2 (count / 60) ++
      ':' :: padded 2 (count % 60)

def Moment.text (m : Moment) : String :=
  let between := if m.date.isSome && m.time.isSome then ['T'] else []
  String.ofList <| (m.date.map Date.chars).getD [] ++ between ++ (m.time.map Time.chars).getD [] ++
    (m.offset.map Offset.chars).getD []

end Blueprint.Toml
