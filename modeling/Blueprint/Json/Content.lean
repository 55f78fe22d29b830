import Blueprint.Json.Reader
import Blueprint.Json.Value

/-!
JSON values and trees of nodes. A text that reads without a fault is a value. A value is read as a
document that has no places: an object has each key once, its last value, and its keys in order.
-/

namespace Blueprint.Json

open Document

/-! ### The value of a tree -/

mutual

def value : Node → Except Fault Value
  | .null _ => .ok .null
  | .bool _ b => .ok (.bool b)
  | .int _ n => .ok (.int n)
  | .float _ x _ => .ok (.float x)
  | .string _ s => .ok (.string s)
  | .list _ items ending => do
    let values ← itemValues items
    Node.Ending.check ending
    return .array values
  | .table _ members ending => do
    let values ← memberValues members
    Node.Ending.check ending
    return .object values
  | .broken _ f => .error f

def itemValues : List (Item Node) → Except Fault (List Value)
  | [] => .ok []
  | ⟨node,place,_⟩ :: rest => do
    let v ← within place (value node)
    return v :: (← itemValues rest)

def memberValues : List (Member Node) → Except Fault (List (String × Value))
  | [] => .ok []
  | ⟨key,keyPlace,node,place⟩ :: rest => do
    let key ← within keyPlace key
    let v ← within place (value node)
    return (key,v) :: (← memberValues rest)

end

/-- The value that a text writes. -/
def parse (text : List Char) : Except Fault Value := decode value text

/-! ### The tree of a value -/

/-- Put a member in the order of the keys, instead of the member that has its key. -/
def insertMember {β : Type} (key : String) (b : β) : List (String × β) → List (String × β)
  | [] => [(key,b)]
  | (k,c) :: rest =>
    if key < k then (key,b) :: (k,c) :: rest
    else if key = k then (key,b) :: rest
    else (k,c) :: insertMember key b rest

/-- The mark of a node that gives no name of a variant. -/
def bareMark (complaint : String) : Mark := ⟨none,.fault ⟨complaint,none⟩,none⟩

def noName (described : String) : String :=
  s!"invalid type: {described}, expected string or map"

/-- A value that has a name or not: the node with its own complaint. -/
def unnamed (make : Mark → Node) : Node := make (bareMark (noName (make (bareMark "")).described))

def floatNode (x : Float) : Node :=
  unnamed fun m => .float m x ((Decimal.document? x).getD "null")

def stringNodeOf (s : String) : Node := .string ⟨none,.named s none none,none⟩ s

/-- An object names a variant with its only key, which has nothing to say besides. -/
def objectVariant : List (String × Node) → Variant
  | [(key,.null _)] => .named key none none
  | [(key,n)] => .named key none (some (n.mismatch "unit"))
  | _ => .fault ⟨"invalid value: map, expected map with a single key",none⟩

def tooLong (length : Nat) : Fault :=
  ⟨s!"invalid length {length}, expected fewer elements in array",none⟩

def tableNode (members : List (String × Node)) : Node :=
  .table ⟨none,objectVariant members,none⟩
    (members.map fun (key,n) => ⟨.ok key,none,n,none⟩) (.closed none)

mutual

def Value.node : Value → Node
  | .null => unnamed .null
  | .bool b => unnamed (.bool · b)
  | .int n => unnamed (.int · n)
  | .float x => floatNode x
  | .string s => stringNodeOf s
  | .array items =>
    unnamed (.list · (itemNodes (tooLong items.length) items) (.closed none))
  | .object members => tableNode (memberNodes members)

def itemNodes (surplus : Fault) : List Value → List (Item Node)
  | [] => []
  | v :: rest => ⟨v.node,none,some surplus⟩ :: itemNodes surplus rest

def memberNodes : List (String × Value) → List (String × Node)
  | [] => []
  | (key,v) :: rest =>
    let later := memberNodes rest
    if later.any (·.1 == key) then later else insertMember key v.node later

end

end Blueprint.Json
