import Blueprint.Toml.Value

/-!
TOML documents read to tables. A text is a list of statements: keys with values, and headers. A
header closes the table before it and opens one of its own; the keys below it go into that table.
-/

namespace Blueprint.Toml

open Document

inductive Statement where
  /-- A key with a value, in the open table. -/
  | entry (path : List Key) (key : Key) (value : Item)
  /-- A header, in double brackets for one table of several. -/
  | header (span : Span) (several : Bool) (path : List Key) (key : Key)

/-! ### Statements -/

/-- Read a key, its value and the rest of the line. -/
def entryAt (c : Cursor) : Except Fault (Statement × Cursor) := do
  let ((path,key),next) ← keyPath c
  match next.rest with
  | '=' :: _ =>
    let (item,next) ← value (skipGap next.advance)
    return (.entry path key item,← finishLine next)
  | _ => .error (faultOn "expected `.`, `=`" next)

/-- Read a header behind its brackets, up to the same number of closing ones. -/
def headerAt (start : Cursor) (several : Bool) (inside : Cursor) :
    Except Fault (Statement × Cursor) := do
  let ((path,key),next) ← keyPath inside
  match next.expect? (if several then [']',']'] else [']']) with
  | some next =>
    return (.header ⟨start.index,next.index⟩ several path key,← finishLine next)
  | none => .error (faultOn "invalid table header\nexpected `.`, `]`" next)

/-- Read the statement at a place, if one stands there before the end of the line. -/
def statementAt (c : Cursor) : Except Fault (Option Statement × Cursor) :=
  let one (r : Except Fault (Statement × Cursor)) : Except Fault (Option Statement × Cursor) :=
    r.map fun (s,next) => (some s,next)
  match c.rest with
  | '[' :: '[' :: _ => one (headerAt c true c.advance.advance)
  | '[' :: _ => one (headerAt c false c.advance)
  | '#' :: _ | '\n' :: _ | '\r' :: _ => (finishLine c).map fun next => (none,next)
  | _ => one (entryAt c)

/-! ### Tables -/

/-- Where the open table belongs: the header's path, or nowhere for the root. -/
structure Place where
  several : Bool
  path : List Key
  key : Key

/-- A document of which some statements are read. -/
structure Draft where
  root : Table
  current : Table
  place : Option Place

/-- The root is written, and begins at the start of the text. -/
def Draft.blank : Draft :=
  let root : Table := ⟨⟨some ⟨0,0⟩,false,false,false⟩,[]⟩
  ⟨root,root,none⟩

/-- The places of several tables, from the start of the first to the end of the last. -/
def tablesSpan (items : List Item) : Option Span := do
  let first ← (← items.head?).span?
  let last ← (← items.getLast?).span?
  return ⟨first.start,last.stop⟩

def Place.duplicate (p : Place) : Clash := .duplicate p.key.text (some (keyTexts p.path))

/-- Put the open table where it belongs. -/
def Draft.close (d : Draft) : Except Clash Table :=
  match d.place with
  | none => .ok d.current
  | some p =>
    let add (t : Table) : Except Clash (Unit × Table) :=
      match p.several, t.find? p.key.text with
      | true, some (.tables _ items) =>
        let items := items ++ [.table d.current]
        .ok ((),t.put p.key (.tables (tablesSpan items) items))
      | false, none => .ok ((),t.put p.key (.table d.current))
      | _, _ => .error p.duplicate
    (descend false false add [] p.path d.root).map (·.2)

/-- Make room for the table of a header, and tell which members it has already. One that was made on
the way to another table is taken up again with its members; one of several is new. -/
def Place.claim (p : Place) (t : Table) : Except Clash (List (Key × Item) × Table) :=
  match p.several, t.find? p.key.text with
  | true, none => .ok ([],t.put p.key (.tables none []))
  | true, some (.tables _ _) => .ok ([],t)
  | false, none => .ok ([],t)
  | false, some (.table child) =>
    if child.head.implicit && !child.head.dotted then .ok (child.entries,t.erase p.key.text)
    else .error p.duplicate
  | _, _ => .error p.duplicate

/-- The draft in which the table of a header is open. -/
def Draft.openAt (root : Table) (span : Span) (p : Place) : Except Clash Draft := do
  let (entries,root) ← descend false false p.claim [] p.path root
  return ⟨root,⟨⟨some span,false,false,false⟩,entries⟩,some p⟩

/-- The place of a table with one more value in it. -/
def Head.reach (h : Head) (value : Item) : Head :=
  match h.span, value.span? with
  | some s, some v => { h with span := some ⟨s.start,v.stop⟩ }
  | _, _ => h

def Draft.apply (d : Draft) : Statement → Except Clash Draft
  | .entry path key value => do
    let home := (d.place.map fun p => keyTexts (p.path ++ [p.key])).getD []
    let current := { d.current with head := d.current.head.reach value }
    return { d with current := ← define false (some home) path key value current }
  | .header span several path key => do
    Draft.openAt (← d.close) span ⟨several,path,key⟩

/-- The fault of a statement that clashes with the ones before it. -/
def clashFault (s : Statement) (c : Cursor) (clash : Clash) : Fault :=
  match s with
  | .entry _ _ _ => faultOn clash.message c
  | .header _ _ _ _ => faultOn ("invalid table header\n" ++ clash.message) c

/-- Read statements to the end of the text. Every line takes a character. -/
def readLines : (fuel : Nat) → Draft → Cursor → Except Fault Table
  | 0, _, c => .error (faultOn tooDeep c)
  | fuel + 1, d, c => do
    let c := skipGap c
    if c.rest.isEmpty then
      match d.close with
      | .ok root => return root
      | .error clash => .error (faultOn clash.message c)
    else
      let (statement,next) ← statementAt c
      match statement with
      | none => readLines fuel d next
      | some s =>
        match d.apply s with
        | .ok d => readLines fuel d next
        | .error clash => .error (clashFault s c clash)

/-- Read a document; a byte order mark may stand in front. -/
def read (text : List Char) : Except Fault Item :=
  let start := Cursor.start text
  let start :=
    match text with
    | '\ufeff' :: _ => start.advance
    | _ => start
  (readLines (text.length + 1) .blank start).map .table

/-- Read something off a whole text. -/
def decode {β : Type} (expect : Node → Except Fault β) (text : List Char) : Except Fault β := do
  let root ← read text
  expect root.node

end Blueprint.Toml
