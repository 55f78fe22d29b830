import Blueprint.Decimal.Text
import Blueprint.Json.Number
import Blueprint.Text.Hexadecimal

/-!
JSON texts read to trees. The text may break off anywhere; what was read before is kept, and the
fault stands where the next value would be. A fault is worded for a reader that wants the value and
for one that passes over it, since the second looks less closely: it takes any number in good form
and any escape in good form.
-/

namespace Blueprint.Json

open Document
open Text (hexValue?)

def endInList : String := "EOF while parsing a list"
def endInObject : String := "EOF while parsing an object"
def endInString : String := "EOF while parsing a string"
def expectedValue : String := "expected value"
def expectedColon : String := "expected `:`"
def expectedListEnd : String := "expected `,` or `]`"
def expectedObjectEnd : String := "expected `,` or `\x7d`"
def trailingComma : String := "trailing comma"
def trailingCharacters : String := "trailing characters"
def keyNotString : String := "key must be a string"
def invalidEscape : String := "invalid escape"
def loneSurrogate : String := "lone leading surrogate in hex escape"
def unfinishedSurrogate : String := "unexpected end of hex escape"
def controlCharacter : String :=
  "control character (\\u0000-\\u001F) found while parsing a string"

def isSpace (c : Char) : Bool := c == ' ' || c == '\n' || c == '\t' || c == '\r'

def skipSpace (c : Cursor) : Cursor := c.dropWhile isSpace

/-! ### Strings -/

/-- The character that a one-letter escape stands for. -/
def simpleEscape? : Char → Option Char
  | '"' => some '"'
  | '\\' => some '\\'
  | '/' => some '/'
  | 'b' => some '\x08'
  | 'f' => some '\x0c'
  | 'n' => some '\n'
  | 'r' => some '\r'
  | 't' => some '\t'
  | _ => none

/-- The code that four hexadecimal digits stand for. -/
def hexCode? (a b c d : Char) : Option Nat := do
  let a ← hexValue? a
  let b ← hexValue? b
  let c ← hexValue? c
  let d ← hexValue? d
  return ((a * 16 + b) * 16 + c) * 16 + d

/-- The fault of an escape whose digits are not four hexadecimal ones. -/
def hexFault (rest : List Char) (index : Nat) : Fault :=
  if 4 ≤ byteLength rest then faultAt invalidEscape (index + 4)
  else faultAt endInString (index + byteLength rest)

def isLeading (code : Nat) : Bool := 0xd800 ≤ code && code < 0xdc00
def isTrailing (code : Nat) : Bool := 0xdc00 ≤ code && code < 0xe000

/-- The character of a pair of surrogates. -/
def pairChar (leading trailing : Nat) : Char :=
  Char.ofNat ((leading - 0xd800) * 0x400 + (trailing - 0xdc00) + 0x10000)

/-- Read the characters of a string up to its closing quote. -/
def readString : (rest : List Char) → (index : Nat) → (done : List Char) →
    Except Fault (String × Cursor)
  | [], i, _ => .error (faultAt endInString i)
  | '"' :: rest, i, done => .ok (String.ofList done.reverse,⟨rest,i + 1⟩)
  | '\\' :: 'u' :: a :: b :: c :: d :: rest, i, done =>
    match hexCode? a b c d with
    | none => .error (hexFault (a :: b :: c :: d :: rest) (i + 2))
    | some code =>
      if isTrailing code then .error (faultAt loneSurrogate (i + 6))
      else if isLeading code then
        match rest with
        | '\\' :: 'u' :: a :: b :: c :: d :: rest =>
          match hexCode? a b c d with
          | none => .error (hexFault (a :: b :: c :: d :: rest) (i + 8))
          | some code' =>
            if isTrailing code' then readString rest (i + 12) (pairChar code code' :: done)
            else .error (faultAt loneSurrogate (i + 12))
        | '\\' :: 'u' :: rest => .error (hexFault rest (i + 8))
        | ['\\'] => .error (faultAt endInString (i + 7))
        | '\\' :: _ => .error (faultAt unfinishedSurrogate (i + 8))
        | [] => .error (faultAt endInString (i + 6))
        | _ => .error (faultAt unfinishedSurrogate (i + 7))
      else readString rest (i + 6) (Char.ofNat code :: done)
  | '\\' :: 'u' :: rest, i, _ => .error (hexFault rest (i + 2))
  | ['\\'], i, _ => .error (faultAt endInString (i + 1))
  | '\\' :: e :: rest, i, done =>
    match simpleEscape? e with
    | some c => readString rest (i + 2) (c :: done)
    | none => .error (faultAt invalidEscape (i + 2))
  | c :: rest, i, done =>
    if c.toNat < 0x20 then .error (faultAt controlCharacter (i + 1))
    else readString rest (i + c.utf8Size) (c :: done)

/-- Pass over the characters of a string. -/
def skipString : (rest : List Char) → (index : Nat) → Except Fault Cursor
  | [], i => .error (faultAt endInString i)
  | '"' :: rest, i => .ok ⟨rest,i + 1⟩
  | '\\' :: 'u' :: a :: b :: c :: d :: rest, i =>
    match hexCode? a b c d with
    | none => .error (hexFault (a :: b :: c :: d :: rest) (i + 2))
    | some _ => skipString rest (i + 6)
  | '\\' :: 'u' :: rest, i => .error (hexFault rest (i + 2))
  | ['\\'], i => .error (faultAt endInString (i + 1))
  | '\\' :: e :: rest, i =>
    match simpleEscape? e with
    | some _ => skipString rest (i + 2)
    | none => .error (faultAt invalidEscape (i + 2))
  | c :: rest, i =>
    if c.toNat < 0x20 then .error (faultAt controlCharacter i)
    else skipString rest (i + c.utf8Size)

/-- Read a string whose opening quote is the next character. -/
def stringAt (c : Cursor) : Outcome String :=
  let inside := c.advance
  match readString inside.rest inside.index [] with
  | .ok (s,next) => ⟨.ok s,.ok next⟩
  | .error f => ⟨.error f,skipString inside.rest inside.index⟩

/-! ### Values -/

/-- A node, and where reading goes on unless it breaks off there. -/
abbrev Read := Node × Option Cursor

def placeAt (index : Nat) : Option Span := some ⟨index,index⟩

/-- The mark of a node that starts at a place and gives no name of a variant. -/
def plainMark (start : Cursor) (place : Nat) (skip : Option Fault) : Mark :=
  ⟨placeAt place,.fault (faultAt expectedValue start.peeked),skip⟩

/-- A place where there is no value. -/
def breakAt (f : Fault) : Read := (.broken ⟨none,.fault f,some f⟩ f,none)

/-- A word, of which the first letter is the next character. -/
def wordAt (start : Cursor) (word : List Char) (node : Mark → Node) : Read :=
  let rec go (c : Cursor) : List Char → Read
    | [] => (node (plainMark start c.index none),some c)
    | w :: ws =>
      match c.rest with
      | [] => fail (faultAt endInValue c.index)
      | d :: _ => if d = w then go c.advance ws else fail (faultAt "expected ident" (c.index + 1))
  go start word
where
  fail (f : Fault) : Read := (.broken (plainMark start start.index (some f)) f,none)

def numberAt (start : Cursor) : Read :=
  let outcome := readNumber start
  let (skip,next) : Option Fault × Option Cursor :=
    match outcome.next with
    | .ok c => (none,some c)
    | .error f => (some f,none)
  let place := (next.map (·.index)).getD start.index
  let mark := plainMark start place skip
  match outcome.value with
  | .ok (.int n) => (.int mark n,next)
  | .ok (.float x) => (.float mark x ((Decimal.document? x).getD "null"),next)
  | .error f => (.broken mark f,next)

/-- A string also gives the name of a variant. -/
def stringNode (start : Cursor) : Read :=
  let outcome := stringAt start
  match outcome.value, outcome.next with
  | .ok s, .ok next =>
    (.string ⟨placeAt next.index,.named s (placeAt next.index) none,none⟩ s,some next)
  | .error f, .ok next => (.broken ⟨none,.fault f,none⟩ f,some next)
  | .ok _, .error f => breakAt f
  | .error f, .error skip => (.broken ⟨none,.fault f,some skip⟩ f,none)

/-- Where a reader stands that tries to close a list here: behind the bracket, or behind a comma and
the blanks around it. -/
def listClose (c : Cursor) : Nat :=
  let c := skipSpace c
  match c.rest with
  | ']' :: _ => c.index + 1
  | ',' :: _ => (skipSpace c.advance).index
  | _ => c.index

/-- Where a reader stands that tries to close an object here. -/
def objectClose (c : Cursor) : Nat :=
  let c := skipSpace c
  match c.rest with
  | '\x7d' :: _ => c.index + 1
  | _ => c.index

/-- What is wrong with anything that follows the name of a variant and its value. -/
def variantRest (value : Read) : Option Fault :=
  match value with
  | (.null _,some c) =>
    let c := skipSpace c
    match c.rest with
    | '\x7d' :: _ => none
    | [] => some (faultAt endInObject c.index)
    | _ => some (faultAt expectedValue c.index)
  | (n,_) => some (n.mismatch "unit")

/-- What comes of the members of an object. -/
structure Members where
  members : List (Member Node)
  ending : Ending
  /-- How the object reads as the name of a variant. -/
  variant : Variant
  skip : Option Fault
  next : Option Cursor

/-- What comes of the items of a list. -/
structure Items where
  items : List (Item Node)
  ending : Ending
  skip : Option Fault
  next : Option Cursor

def Items.stopped (next stop skip : Fault) : Items := ⟨[],.broken next stop,some skip,none⟩

def Members.stopped (next skip : Fault) (variant : Variant) : Members :=
  ⟨[],.broken next next,variant,some skip,none⟩

/-- The variant that an object gives whose members do not begin with a name. -/
def noVariant (f : Fault) : Variant := .fault f

mutual

/-- Read the value at a place, after blanks. Every value takes a character, so the length of the
text is fuel enough. -/
def readValue : (fuel : Nat) → Cursor → Read
  | 0, c => breakAt (faultAt endInValue c.index)
  | fuel + 1, c =>
    let c := skipSpace c
    match c.rest with
    | [] => breakAt (faultAt endInValue c.index)
    | d :: _ =>
      if d = '"' then stringNode c
      else if d = '[' then
        let r := readItems fuel true c.advance
        (.list (plainMark c c.index r.skip) r.items r.ending,r.next)
      else if d = '\x7b' then
        let r := readMembers fuel true c.advance
        (.table ⟨placeAt c.index,r.variant,r.skip⟩ r.members r.ending,r.next)
      else if d = '-' || d.isDigit then numberAt c
      else if d = 'n' then wordAt c ['n','u','l','l'] .null
      else if d = 't' then wordAt c ['t','r','u','e'] (.bool · true)
      else if d = 'f' then wordAt c ['f','a','l','s','e'] (.bool · false)
      else breakAt (faultAt expectedValue c.peeked)

/-- Read the items of a list up to its bracket. -/
def readItems : (fuel : Nat) → (first : Bool) → Cursor → Items
  | 0, _, c => let f := faultAt endInList c.index; .stopped f f f
  | fuel + 1, first, c =>
    let c := skipSpace c
    match c.rest with
    | [] => let f := faultAt endInList c.peeked; .stopped f f f
    | d :: _ =>
      if d = ']' then ⟨[],.closed (placeAt (c.index + 1)),none,some c.advance⟩
      else if first then readItem fuel none c
      else if d = ',' then
        let c := skipSpace c.advance
        match c.rest with
        | [] =>
          .stopped (faultAt endInValue c.peeked) (faultAt trailingCharacters c.peeked)
            (faultAt endInValue c.peeked)
        | ']' :: _ =>
          .stopped (faultAt trailingComma c.peeked) (faultAt trailingComma c.peeked)
            (faultAt expectedValue c.peeked)
        | _ => readItem fuel (some (faultAt trailingCharacters c.peeked)) c
      else
        .stopped (faultAt expectedListEnd c.peeked) (faultAt trailingCharacters c.peeked)
          (faultAt expectedListEnd c.peeked)

/-- Read an item and those that follow it. -/
def readItem : (fuel : Nat) → (surplus : Option Fault) → Cursor → Items
  | 0, _, c => let f := faultAt endInList c.index; .stopped f f f
  | fuel + 1, surplus, c =>
    let (node,next) := readValue fuel c
    match next with
    | none =>
      let f := (node.mark.skip).getD (faultAt endInList c.index)
      ⟨[⟨node,none,surplus⟩],.broken f f,some f,none⟩
    | some after =>
      let r := readItems fuel false after
      ⟨⟨node,placeAt (listClose after),surplus⟩ :: r.items,r.ending,r.skip,r.next⟩

/-- Read the members of an object up to its brace. -/
def readMembers : (fuel : Nat) → (first : Bool) → Cursor → Members
  | 0, _, c => let f := faultAt endInObject c.index; .stopped f f (noVariant f)
  | fuel + 1, first, c =>
    let c := skipSpace c
    match c.rest with
    | [] => let f := faultAt endInObject c.peeked; .stopped f f (noVariant f)
    | d :: _ =>
      let nothing := noVariant (faultAt expectedValue c.peeked)
      if d = '\x7d' then ⟨[],.closed (placeAt (c.index + 1)),nothing,none,some c.advance⟩
      else if first then
        if d = '"' then readMember fuel c
        else let f := faultAt keyNotString c.peeked; .stopped f f (noVariant f)
      else if d = ',' then
        let c := skipSpace c.advance
        match c.rest with
        | [] => .stopped (faultAt endInValue c.peeked) (faultAt endInObject c.peeked) nothing
        | '"' :: _ => readMember fuel c
        | '\x7d' :: _ =>
          .stopped (faultAt trailingComma c.peeked) (faultAt keyNotString c.peeked) nothing
        | _ => .stopped (faultAt keyNotString c.peeked) (faultAt keyNotString c.peeked) nothing
      else
        .stopped (faultAt expectedObjectEnd c.peeked) (faultAt expectedObjectEnd c.peeked) nothing

/-- Read a member at its key and those that follow it. -/
def readMember : (fuel : Nat) → Cursor → Members
  | 0, c => let f := faultAt endInObject c.index; .stopped f f (noVariant f)
  | fuel + 1, c =>
    let key := stringAt c
    match key.next with
    | .error skip =>
      let f := match key.value with
        | .ok _ => skip
        | .error f => f
      .stopped f skip (noVariant f)
    | .ok afterKey =>
      let keyPlace := placeAt (objectClose afterKey)
      let c := skipSpace afterKey
      let value : Read :=
        match c.rest with
        | ':' :: _ => readValue fuel c.advance
        | [] => breakAt (faultAt endInObject c.peeked)
        | _ => breakAt (faultAt expectedColon c.peeked)
      let variant :=
        match key.value with
        | .ok name => Variant.named name (placeAt afterKey.index) (variantRest value)
        | .error f => .fault f
      match value.2 with
      | none =>
        let f := (value.1.mark.skip).getD (faultAt endInObject c.index)
        ⟨[⟨key.value,keyPlace,value.1,none⟩],.broken f f,variant,some f,none⟩
      | some after =>
        let r := readMembers fuel false after
        ⟨⟨key.value,keyPlace,value.1,placeAt (objectClose after)⟩ :: r.members,r.ending,
          variant,r.skip,r.next⟩

end

/-- A whole text: its value, and what is wrong with anything behind it. -/
structure Source where
  root : Node
  surplus : Option Fault

/-- Read a text. A value, an item and a list take three units of fuel for a character. -/
def read (text : List Char) : Source :=
  let (root,next) := readValue (3 * text.length + 3) (.start text)
  let surplus :=
    match next with
    | none => none
    | some c =>
      let c := skipSpace c
      if c.rest.isEmpty then none else some (faultAt trailingCharacters c.peeked)
  ⟨root,surplus⟩

/-- Read something off a whole text. -/
def decode {β : Type} (expect : Node → Except Fault β) (text : List Char) : Except Fault β := do
  let source := read text
  let b ← expect source.root
  match source.surplus with
  | some f => .error f
  | none => return b

end Blueprint.Json
