import Blueprint.Document.Cursor
import Blueprint.Text.Hexadecimal
import Blueprint.Toml.Item

/-!
The texts inside a TOML document: blanks, comments, keys and strings.
-/

namespace Blueprint.Toml

open Document
open Text (hexValue?)

/-- A fault at a character, or at the end of the text. -/
def faultOn (message : String) (c : Cursor) : Fault := ⟨message,some ⟨c.index,c.advance.index⟩⟩

def invalidKey : String := "invalid key"
def invalidString : String := "invalid string"
def invalidEscape : String := "invalid escape sequence"
def tooDeep : String := "recursion limit exceeded"

/-- Values nest less deep than this, and a key has fewer parts. -/
def depthLimit : Nat := 80

/-! ### Blanks and comments -/

def isGap (c : Char) : Bool := c == ' ' || c == '\t'

/-- A character that may stand in a comment or a string: no control character but the tab. -/
def isPrintable (c : Char) : Bool := c == '\t' || (0x20 ≤ c.toNat && c.toNat ≠ 0x7f)

def skipGap (c : Cursor) : Cursor := c.dropWhile isGap

/-- The place behind the end of a line. -/
def lineEnd? (c : Cursor) : Option Cursor :=
  match c.rest with
  | '\n' :: _ => some c.advance
  | '\r' :: '\n' :: _ => some c.advance.advance
  | _ => none

def skipComment (c : Cursor) : Cursor :=
  match c.rest with
  | '#' :: _ => c.advance.dropWhile isPrintable
  | _ => c

/-- The place behind a line on which nothing more stands but a comment. -/
def finishLine (c : Cursor) : Except Fault Cursor :=
  let c := skipComment (skipGap c)
  match lineEnd? c with
  | some c => .ok c
  | none => if c.rest.isEmpty then .ok c else .error (faultOn "expected newline, `#`" c)

/-- Pass over blanks, ends of lines and comments. -/
def skipLines : (inComment : Bool) → (rest : List Char) → (index : Nat) → Cursor
  | _, [], i => ⟨[],i⟩
  | _, '\n' :: rest, i => skipLines false rest (i + 1)
  | _, '\r' :: '\n' :: rest, i => skipLines false rest (i + 2)
  | inComment, d :: rest, i =>
    if inComment && isPrintable d then skipLines true rest (i + d.utf8Size)
    else if inComment then ⟨d :: rest,i⟩
    else if isGap d then skipLines false rest (i + 1)
    else if d = '#' then skipLines true rest (i + 1)
    else ⟨d :: rest,i⟩

/-! ### Strings -/

/-- The quotes around a string: their mark, and whether three of them enclose several lines. -/
structure Quotes where
  mark : Char
  manyLines : Bool
  deriving DecidableEq, Repr

/-- Backslashes have a meaning between double quotes. -/
def Quotes.escapes (q : Quotes) : Bool := q.mark == '"'

/-- Where a reader stands inside a string. -/
inductive StringState where
  | plain
  /-- Behind a backslash. -/
  | escape
  /-- In the code of a character: how many digits are missing, and the value so far. -/
  | code (missing value : Nat)
  /-- Behind a backslash at the end of a line, whether the line has ended yet. -/
  | join (ended : Bool)
  deriving DecidableEq, Repr

/-- The character that a one-letter escape stands for. -/
def simpleEscape? : Char → Option Char
  | '"' => some '"'
  | '\\' => some '\\'
  | 'b' => some '\x08'
  | 'f' => some '\x0c'
  | 'n' => some '\n'
  | 'r' => some '\r'
  | 't' => some '\t'
  | _ => none

/-- What one character does that is no quote: the next state, and a character of the string. The
carriage return of a line's end counts as a blank. -/
def StringState.step (q : Quotes) (state : StringState) (d : Char) (returns : Bool) :
    Option (StringState × Option Char) :=
  let blank := isGap d || returns
  match state with
  | .escape =>
    match simpleEscape? d with
    | some e => some (.plain,some e)
    | none =>
      if d = 'u' then some (.code 4 0,none)
      else if d = 'U' then some (.code 8 0,none)
      else if q.manyLines && d = '\n' then some (.join true,none)
      else if q.manyLines && blank then some (.join false,none)
      else none
  | .code missing value => do
    let digit ← hexValue? d
    let value := value * 16 + digit
    if 1 < missing then some (.code (missing - 1) value,none)
    else if value.isValidChar then some (.plain,some (Char.ofNat value))
    else none
  | .join false =>
    if d = '\n' then some (.join true,none) else if blank then some (.join false,none) else none
  | .join true => if d = '\n' || blank then some (.join true,none) else plain
  | .plain => plain
where
  plain : Option (StringState × Option Char) :=
    if q.escapes && d = '\\' then some (.escape,none)
    else if q.manyLines && returns then some (.plain,none)
    else if isPrintable d || (q.manyLines && d = '\n') then some (.plain,some d)
    else none

/-- Whether a quote is an ordinary quote in this state, and not escaped. -/
def StringState.atQuote : StringState → Bool
  | .plain => true
  | .join ended => ended
  | _ => false

/-- The string that ends before a place, after some quotes of which three close it. -/
def closed (q : Quotes) (quotes : Nat) (done rest : List Char) (index : Nat) :
    Except Fault (String × Cursor) :=
  .ok (String.ofList ((List.replicate (quotes - 3) q.mark ++ done).reverse),⟨rest,index⟩)

/-- Read a string up to its closing quotes. A string of several lines may end in two quotes of its
own, so quotes are counted up to five before it is known what they are. -/
def readString (q : Quotes) : (state : StringState) → (quotes : Nat) → (rest : List Char) →
    (index : Nat) → (done : List Char) → Except Fault (String × Cursor)
  | _, quotes, [], i, done =>
    if 3 ≤ quotes then closed q quotes done [] i else .error (faultOn invalidString ⟨[],i⟩)
  | state, quotes, d :: rest, i, done =>
    if d = q.mark && state.atQuote then
      if !q.manyLines then .ok (String.ofList done.reverse,⟨rest,i + 1⟩)
      else if quotes = 4 then closed q 5 done rest (i + 1)
      else readString q .plain (quotes + 1) rest (i + 1) done
    else if 3 ≤ quotes then closed q quotes done (d :: rest) i
    else
      match state.step q d (d = '\r' && rest.head? = some '\n') with
      | none =>
        .error (faultOn (if state = .plain then invalidString else invalidEscape) ⟨d :: rest,i⟩)
      | some (next,e) =>
        readString q next 0 rest (i + d.utf8Size)
          (e.toList ++ List.replicate quotes q.mark ++ done)

/-- Read the string on one line whose quote is the next character. -/
def lineString (mark : Char) (c : Cursor) : Except Fault (String × Cursor) :=
  let inside := c.advance
  readString ⟨mark,false⟩ .plain 0 inside.rest inside.index []

/-- Read a string at its quotes. The end of a line right behind three quotes is not part of it. -/
def stringAt (mark : Char) (c : Cursor) : Except Fault (String × Cursor) :=
  match c.expect? [mark,mark,mark] with
  | some inside =>
    let inside := (lineEnd? inside).getD inside
    readString ⟨mark,true⟩ .plain 0 inside.rest inside.index []
  | none => lineString mark c

/-! ### Keys -/

/-- A character of a key without quotes. -/
def isBare (c : Char) : Bool := c.isAlphanum || c == '_' || c == '-'

/-- Read one part of a key. -/
def keyAt (c : Cursor) : Except Fault (Key × Cursor) := do
  let (text,next) ←
    match c.rest with
    | '"' :: _ => lineString '"' c
    | '\'' :: _ => lineString '\'' c
    | _ =>
      let (bare,next) := c.takeWhile isBare
      if bare.isEmpty then .error (faultOn invalidKey c) else .ok (String.ofList bare,next)
  return (⟨text,⟨c.index,next.index⟩⟩,next)

/-- Read the parts of a key, between points and blanks, and the blanks behind them. -/
def keyPathAt : (room : Nat) → Cursor → Except Fault ((List Key × Key) × Cursor)
  | 0, c => .error (faultOn tooDeep c)
  | room + 1, c => do
    let (key,next) ← keyAt (skipGap c)
    let next := skipGap next
    match next.rest with
    | '.' :: _ =>
      let ((path,last),next) ← keyPathAt room next.advance
      return ((key :: path,last),next)
    | _ => return (([],key),next)

def keyPath (c : Cursor) : Except Fault ((List Key × Key) × Cursor) := keyPathAt (depthLimit - 1) c

end Blueprint.Toml
