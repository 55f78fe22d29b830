import Blueprint.Decimal.Text
import Blueprint.Document.Node

/-!
TOML documents as trees, with the places of values and keys in the text, and how they are read. A
table that no header and no braces write has no place of its own.
-/

namespace Blueprint.Toml

open Document

structure Key where
  text : String
  span : Span
  deriving DecidableEq, Repr, Inhabited

inductive Scalar where
  | string (s : String)
  | int (n : Int)
  | float (x : Float)
  | bool (b : Bool)
  | date (text : String)

/-- How a table came about. -/
structure Head where
  span : Option Span
  /-- Written in braces. -/
  inBraces : Bool
  /-- Made on the way to another table. -/
  implicit : Bool
  /-- Made by a dotted key. -/
  dotted : Bool
  deriving DecidableEq, Repr, Inhabited

structure TableOf (ι : Type) where
  head : Head
  entries : List (Key × ι)

inductive Item where
  | scalar (span : Span) (s : Scalar)
  | array (span : Span) (items : List Item)
  | table (t : TableOf Item)
  /-- Tables under one header in double brackets. -/
  | tables (span : Option Span) (items : List Item)

abbrev Table := TableOf Item

def Item.span? : Item → Option Span
  | scalar span _ => some span
  | array span _ => some span
  | table t => t.head.span
  | tables span _ => span

/-- The kind of an item, in words. -/
def Item.kind : Item → String
  | scalar _ (.string _) => "string"
  | scalar _ (.int _) => "integer"
  | scalar _ (.float _) => "float"
  | scalar _ (.bool _) => "boolean"
  | scalar _ (.date _) => "datetime"
  | array _ _ => "array"
  | table t => if t.head.inBraces then "inline table" else "table"
  | tables _ _ => "array of tables"

/-- The text of a float in complaints: plain, with one decimal at least. -/
def floatText (x : Float) : String :=
  let text := Decimal.plain x
  if x.isFinite && !text.toList.contains '.' then text ++ ".0" else text

/-- The key under which a date is found that is read as a table. -/
def dateKey : String := "$__toml_private_datetime"

/-- What is wrong with the value that comes with the name of a variant: it has to be empty. -/
def payloadFault? : Item → Option Fault
  | .table t => if t.entries.isEmpty then none else some ⟨"expected empty table",t.head.span⟩
  | .array span items => if items.isEmpty then none else some ⟨"expected empty table",some span⟩
  | .tables span items => if items.isEmpty then none else some ⟨"expected empty array",span⟩
  | i => some ⟨"expected table, found " ++ i.kind,i.span?⟩

/-- How an item reads as the name of a variant: a string, or a table with one key. -/
def variantOf : Item → Variant
  | .scalar span (.string s) => .named s (some span) none
  | .table t =>
    match t.entries with
    | [] => .fault ⟨"wanted exactly 1 element, found 0 elements",t.head.span⟩
    | [(key,value)] => .named key.text (some key.span) (payloadFault? value)
    | _ => .fault ⟨"wanted exactly 1 element, more than 1 element",t.head.span⟩
  | i => .fault ⟨"wanted string or table",i.span?⟩

def Item.mark (i : Item) : Mark := ⟨i.span?,variantOf i,none⟩

def scalarNode (mark : Mark) : Scalar → Node
  | .string s => .string mark s
  | .int n => .int mark n
  | .float x => .float mark x (floatText x)
  | .bool b => .bool mark b
  | .date text =>
    let value := Node.string ⟨none,.named text none none,none⟩ text
    .table mark [⟨.ok dateKey,none,value,none⟩] (.closed mark.place)

mutual

def Item.node (i : Item) : Node :=
  match i with
  | .scalar span s => scalarNode (Item.scalar span s).mark s
  | .array span items =>
    .list (Item.array span items).mark (itemNodes (some span) items) (.closed (some span))
  | .tables span items =>
    .list (Item.tables span items).mark (itemNodes span items) (.closed span)
  | .table ⟨head,entries⟩ =>
    .table (Item.table ⟨head,entries⟩).mark (memberNodes head.span entries) (.closed head.span)

def itemNodes (place : Option Span) : List Item → List (Document.Item Node)
  | [] => []
  | i :: rest => ⟨i.node,place,none⟩ :: itemNodes place rest

def memberNodes (place : Option Span) : List (Key × Item) → List (Member Node)
  | [] => []
  | (key,i) :: rest =>
    ⟨.ok key.text,place,i.node,i.span?.or (some key.span)⟩ :: memberNodes place rest

end

end Blueprint.Toml
