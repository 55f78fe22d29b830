import Blueprint.Document.Node

/-!
Records with named fields. A record is written as a table, whose unknown members are passed over, or
as the list of its fields in order, whose tail may be left out where fields are optional. The
members of a table are read in the order of the text, so the first fault of the text is the one that
is told.
-/

namespace Blueprint.Document

/-- A field of a record that is being read into a draft. -/
structure RecordField (δ : Type) where
  name : String
  /-- Another name of the field. -/
  otherName : Option String
  /-- Whether a list of fields may end before it. -/
  optional : Bool
  isSet : δ → Bool
  set : δ → Node → Except Fault δ

/-- A field that puts what it reads into a draft. -/
def RecordField.of {δ β : Type} (name : String) (otherName : Option String) (optional : Bool)
    (get : δ → Option β) (put : δ → β → δ) (read : Node → Except Fault β) : RecordField δ :=
  ⟨name,otherName,optional,fun d => (get d).isSome,fun d n => (read n).map (put d)⟩

def RecordField.answersTo {δ : Type} (f : RecordField δ) (key : String) : Bool :=
  f.name == key || f.otherName == some key

/-- A record: what it is called, its fields, the draft without any field, and the record made of a
draft, or the name of a field that is missing. -/
structure Record (δ β : Type) where
  title : String
  fields : List (RecordField δ)
  blank : δ
  finish : δ → Except String β

/-- A field without which there is no record. -/
def required {β : Type} (name : String) : Option β → Except String β
  | some b => .ok b
  | none => .error name

namespace Record

variable {δ β : Type} (r : Record δ β)

/-- Read one member of a table into a draft. -/
def readMember (draft : δ) (m : Member Node) : Except Fault δ := do
  let key ← within m.keyPlace m.key
  match r.fields.find? (·.answersTo key) with
  | none =>
    within m.place m.node.skipped
    return draft
  | some field =>
    if field.isSet draft then .error ⟨s!"duplicate field `{field.name}`",m.keyPlace⟩
    else within m.place (field.set draft m.node)

def readMembers (draft : δ) : List (Member Node) → Except Fault δ
  | [] => .ok draft
  | m :: rest => do
    let next ← r.readMember draft m
    readMembers next rest

/-- Read the fields of a list in order. -/
def readFields (total : Nat) (ending : Ending) :
    (done : Nat) → δ → List (RecordField δ) → List (Item Node) → Except Fault δ
  | _, draft, [], items => do
    Node.surplusOf items ending
    return draft
  | done, draft, field :: fields, item :: items => do
    let next ← within item.place (field.set draft item.node)
    readFields total ending (done + 1) next fields items
  | done, draft, field :: fields, [] =>
    match ending with
    | .broken next _ => .error next
    | .closed _ =>
      if field.optional then readFields total ending (done + 1) draft fields []
      else .error (Node.shortfall done s!"{r.title} with {total} elements" ending)

def conclude (draft : δ) (place : Option Span) : Except Fault β :=
  match r.finish draft with
  | .ok b => .ok b
  | .error name => .error ⟨s!"missing field `{name}`",place⟩

def read (n : Node) : Except Fault β :=
  match n with
  | .table _ members ending => do
    let draft ← r.readMembers r.blank members
    match ending with
    | .broken next _ => .error next
    | .closed place => r.conclude draft place
  | .list mark items ending => do
    let draft ← r.readFields r.fields.length ending 0 r.blank r.fields items
    r.conclude draft mark.place
  | n => .error (n.mismatch r.title)

end Record

end Blueprint.Document
