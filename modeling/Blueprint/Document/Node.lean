import Blueprint.Text.Quoted

/-!
What a document says, before it is known what it should say. A document of any format is read to a
tree of nodes, and whatever is expected is then read off the tree. A node knows how a complaint
about it is worded and where in the text the complaint belongs. A text that breaks off is still read
to a tree, with the fault at the place where reading stopped: a fault of an earlier value is found
first.
-/

namespace Blueprint.Document

/-- A range of bytes in the text of a document. -/
structure Span where
  start : Nat
  stop : Nat
  deriving DecidableEq, Repr, Inhabited

/-- What is wrong with a document, and where. A fault that has no place yet gets the place of what
encloses it. -/
structure Fault where
  message : String
  place : Option Span
  deriving DecidableEq, Repr, Inhabited

/-- Give a fault a place unless it has one. -/
def Fault.within (f : Fault) (place : Option Span) : Fault :=
  match f.place with
  | some _ => f
  | none => { f with place }

/-- Give the fault of a result a place unless it has one. -/
def within {β : Type} (place : Option Span) : Except Fault β → Except Fault β
  | .ok b => .ok b
  | .error f => .error (f.within place)

/-- What a node says when one of a few names is expected. -/
inductive Variant where
  /-- The name, its place, and what is wrong with anything that comes with the name. -/
  | named (name : String) (place : Option Span) (rest : Option Fault)
  /-- No name is given. -/
  | fault (f : Fault)
  deriving DecidableEq, Repr, Inhabited

/-- What a format says about a node besides its content. -/
structure Mark where
  /-- Where a complaint about the node's kind belongs. -/
  place : Option Span
  variant : Variant
  /-- What is wrong with the node even for a reader that has no use for it. -/
  skip : Option Fault
  deriving DecidableEq, Repr, Inhabited

/-- How a list or a table ends. -/
inductive Ending where
  /-- It is closed; a complaint about what is missing from it belongs to the place. -/
  | closed (place : Option Span)
  /-- It breaks off: the fault for a reader that looks for another item, and the fault for a reader
  that wants the end. -/
  | broken (next stop : Fault)
  deriving DecidableEq, Repr, Inhabited

/-- An item of a list. -/
structure Item (ν : Type) where
  node : ν
  /-- The place of a fault in the item that has none of its own. -/
  place : Option Span
  /-- What is wrong when the list should have ended before the item. -/
  surplus : Option Fault

/-- A member of a table. -/
structure Member (ν : Type) where
  key : Except Fault String
  /-- The place of a complaint about the key. -/
  keyPlace : Option Span
  node : ν
  /-- The place of a fault in the value that has none of its own. -/
  place : Option Span

inductive Node where
  | null (mark : Mark)
  | bool (mark : Mark) (b : Bool)
  | int (mark : Mark) (n : Int)
  /-- A number with the text that complaints use. -/
  | float (mark : Mark) (x : Float) (text : String)
  | string (mark : Mark) (s : String)
  | list (mark : Mark) (items : List (Item Node)) (ending : Ending)
  | table (mark : Mark) (members : List (Member Node)) (ending : Ending)
  /-- There is no value to read. -/
  | broken (mark : Mark) (fault : Fault)

namespace Node

def mark : Node → Mark
  | null m => m
  | bool m _ => m
  | int m _ => m
  | float m _ _ => m
  | string m _ => m
  | list m _ _ => m
  | table m _ _ => m
  | broken m _ => m

/-- What a node is, in words. -/
def described : Node → String
  | null _ => "null"
  | bool _ b => s!"boolean `{b}`"
  | int _ n => s!"integer `{n}`"
  | float _ _ text => s!"floating point `{text}`"
  | string _ s => s!"string {Text.quoted s}"
  | list _ _ _ => "sequence"
  | table _ _ _ => "map"
  | broken _ _ => "nothing"

/-- The complaint that a node is not of the kind that is expected. -/
def mismatch (n : Node) (expected : String) : Fault :=
  match n with
  | broken _ f => f
  | n => ⟨s!"invalid type: {n.described}, expected {expected}",n.mark.place⟩

/-- What is wrong with a node for a reader that passes over it. -/
def skipped (n : Node) : Except Fault Unit :=
  match n.mark.skip with
  | some f => .error f
  | none => .ok ()

/-- A number; whole numbers are numbers too. -/
def asFloat : Node → Except Fault Float
  | int _ n => .ok (Float.ofInt n)
  | float _ x _ => .ok x
  | n => .error (n.mismatch "f64")

def asString : Node → Except Fault String
  | string _ s => .ok s
  | n => .error (n.mismatch "a string")

/-- Nothing, or what is expected. -/
def asOption {β : Type} (read : Node → Except Fault β) : Node → Except Fault (Option β)
  | null _ => .ok none
  | n => (read n).map some

/-- The items of a list, each as expected. -/
def readItems {β : Type} (read : Node → Except Fault β) : List (Item Node) → Except Fault (List β)
  | [] => .ok []
  | item :: rest => do
    let b ← within item.place (read item.node)
    let bs ← readItems read rest
    return b :: bs

def Ending.check : Ending → Except Fault Unit
  | .closed _ => .ok ()
  | .broken next _ => .error next

def asList {β : Type} (read : Node → Except Fault β) : Node → Except Fault (List β)
  | list _ items ending => do
    let bs ← readItems read items
    Ending.check ending
    return bs
  | n => .error (n.mismatch "a sequence")

/-- The members of a table, each value as expected. -/
def readValues {β : Type} (read : Node → Except Fault β) :
    List (Member Node) → Except Fault (List (String × β))
  | [] => .ok []
  | m :: rest => do
    let key ← within m.keyPlace m.key
    let b ← within m.place (read m.node)
    let bs ← readValues read rest
    return (key,b) :: bs

/-- A table of any keys, in the order of the text. -/
def asTable {β : Type} (read : Node → Except Fault β) : Node → Except Fault (List (String × β))
  | table _ members ending => do
    let bs ← readValues read members
    Ending.check ending
    return bs
  | n => .error (n.mismatch "a map")

/-- Names as complaints list them. -/
def oneOf : List String → String
  | [] => "there are no variants"
  | [a] => s!"`{a}`"
  | [a,b] => s!"`{a}` or `{b}`"
  | names => "one of " ++ ", ".intercalate (names.map fun a => s!"`{a}`")

/-- One of a few values, by name. -/
def asVariant {β : Type} (all : List β) (name : β → String) (n : Node) : Except Fault β :=
  match n.mark.variant with
  | .fault f => .error f
  | .named given place rest =>
    match all.find? (name · == given) with
    | none => .error ⟨s!"unknown variant `{given}`, expected {oneOf (all.map name)}",place⟩
    | some b =>
      match rest with
      | some f => .error f
      | none => .ok b

/-- What is wrong when a list goes on after the items that were expected. -/
def surplusOf : List (Item Node) → Ending → Except Fault Unit
  | item :: _, _ =>
    match item.surplus with
    | some f => .error f
    | none => .ok ()
  | [], .broken _ stop => .error stop
  | [], .closed _ => .ok ()

/-- The complaint about a list with too few items, or about where it breaks off. -/
def shortfall (length : Nat) (expected : String) : Ending → Fault
  | .closed place => ⟨s!"invalid length {length}, expected {expected}",place⟩
  | .broken next _ => next

/-- Two numbers in a list. -/
def asPair (n : Node) : Except Fault (Float × Float) :=
  let expected := "an array of length 2"
  match n with
  | list _ [] ending => .error (shortfall 0 expected ending)
  | list _ [item] ending => do
    let _ ← within item.place item.node.asFloat
    .error (shortfall 1 expected ending)
  | list _ (first :: second :: rest) ending => do
    let a ← within first.place first.node.asFloat
    let b ← within second.place second.node.asFloat
    surplusOf rest ending
    return (a,b)
  | n => .error (n.mismatch expected)

end Node

end Blueprint.Document
