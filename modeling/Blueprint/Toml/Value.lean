import Blueprint.Toml.Number
import Blueprint.Toml.Table

/-!
Values in TOML documents, read with their places.
-/

namespace Blueprint.Toml

open Document

/-- A character that may stand in a number, a date or a time; a blank may part the last two. -/
def isNumberPart (c : Char) : Bool :=
  c.isAlphanum || c == '+' || c == '-' || c == '.' || c == '_' || c == ':' || c == ' '

/-- Read a number, a date or a time. -/
def numberAt (c : Cursor) : Except Fault (Scalar × Cursor) :=
  let part := c.rest.takeWhile isNumberPart
  match number? part with
  | some (s,rest) =>
    let used := part.length - rest.length
    .ok (s,⟨c.rest.drop used,c.index + used⟩)
  | none => .error (faultOn "invalid number" c)

/-- Read a value that holds no other values. -/
def scalarAt (c : Cursor) : Except Fault (Scalar × Cursor) :=
  let word (text : List Char) (s : Scalar) : Except Fault (Scalar × Cursor) :=
    match c.expect? text with
    | some next => .ok (s,next)
    | none => .error (faultOn invalidString c)
  let string (mark : Char) : Except Fault (Scalar × Cursor) := do
    let (s,next) ← stringAt mark c
    return (.string s,next)
  match c.rest with
  | '"' :: _ => string '"'
  | '\'' :: _ => string '\''
  | 't' :: _ => word ['t','r','u','e'] (.bool true)
  | 'f' :: _ => word ['f','a','l','s','e'] (.bool false)
  | 'i' :: _ => word ['i','n','f'] (.float Decimal.infinity)
  | 'n' :: _ => word ['n','a','n'] (.float Decimal.notANumber)
  | d :: _ =>
    if d.isDigit || d = '+' || d = '-' then numberAt c
    else .error (faultOn "invalid string\nexpected `\"`, `'`" c)
  | [] => .error (faultOn "invalid string\nexpected `\"`, `'`" c)

/-- The members of a table in braces, put together. -/
def inlineTable (span : Span) (members : List (List Key × Key × Item)) : Except Clash Table :=
  members.foldlM (fun t (path,key,value) => define true (some []) path key value t)
    ⟨⟨some span,true,false,false⟩,[]⟩

mutual

/-- Read a value at its first character. Every value takes a character, so the length of the text is
fuel enough. -/
def valueAt : (fuel depth : Nat) → Cursor → Except Fault (Item × Cursor)
  | 0, _, c => .error (faultOn tooDeep c)
  | fuel + 1, depth, c =>
    match c.rest with
    | '[' :: _ =>
      if depthLimit ≤ depth + 1 then .error (faultOn tooDeep c)
      else do
        let (items,next) ← arrayItems fuel (depth + 1) c.advance
        return (.array ⟨c.index,next.index⟩ items,next)
    | '\x7b' :: _ =>
      if depthLimit ≤ depth + 1 then .error (faultOn tooDeep c)
      else do
        let (members,next) ← inlineMembers fuel (depth + 1) true c.advance
        match inlineTable ⟨c.index,next.index⟩ members with
        | .ok t => return (.table t,next)
        | .error clash => .error (faultOn ("invalid inline table\n" ++ clash.message) c.advance)
    | _ => do
      let (s,next) ← scalarAt c
      return (.scalar ⟨c.index,next.index⟩ s,next)

/-- Read the items of an array up to its bracket. A comma may follow the last one. -/
def arrayItems : (fuel depth : Nat) → Cursor → Except Fault (List Item × Cursor)
  | 0, _, c => .error (faultOn tooDeep c)
  | fuel + 1, depth, c => do
    let c := skipLines false c.rest c.index
    match c.rest with
    | ']' :: _ => return ([],c.advance)
    | _ =>
      let (first,next) ← valueAt fuel depth c
      let next := skipLines false next.rest next.index
      match next.rest with
      | ',' :: _ =>
        let (items,next) ← arrayItems fuel depth next.advance
        return (first :: items,next)
      | ']' :: _ => return ([first],next.advance)
      | _ => .error (faultOn "invalid array\nexpected `]`" next)

/-- Read the members of a table in braces up to its end. -/
def inlineMembers : (fuel depth : Nat) → (first : Bool) → Cursor →
    Except Fault (List (List Key × Key × Item) × Cursor)
  | 0, _, _, c => .error (faultOn tooDeep c)
  | fuel + 1, depth, first, c => do
    let c := skipGap c
    match first, c.rest with
    | true, '\x7d' :: _ => return ([],c.advance)
    | _, _ =>
      let ((path,key),next) ← keyPath c
      match next.rest with
      | '=' :: _ =>
        let (value,next) ← valueAt fuel depth (skipGap next.advance)
        let next := skipGap next
        match next.rest with
        | ',' :: _ =>
          let (members,next) ← inlineMembers fuel depth false next.advance
          return ((path,key,value) :: members,next)
        | '\x7d' :: _ => return ([(path,key,value)],next.advance)
        | _ => .error (faultOn "invalid inline table\nexpected `\x7d`" next)
      | _ => .error (faultOn "invalid inline table\nexpected `.`, `=`" next)

end

/-- Read the value at a place. A value, an item and a member take three units of fuel for a
character. -/
def value (c : Cursor) : Except Fault (Item × Cursor) := valueAt (3 * c.rest.length + 3) 0 c

end Blueprint.Toml
