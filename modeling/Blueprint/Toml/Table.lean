import Blueprint.Toml.Item

/-!
How tables grow. A key is defined once. A table that was made on the way to another one may get more
members, a written one may not; a table made by dotted keys grows by dotted keys only.
-/

namespace Blueprint.Toml

open Document

/-- Two definitions that do not agree. -/
inductive Clash where
  /-- A key is defined again, in the table with a path if that is known. -/
  | duplicate (key : String) (table : Option (List String))
  /-- A dotted key passes through something that is no table that can grow. -/
  | closed (path : List String) (kind : String)
  deriving DecidableEq, Repr

def pathText (path : List String) : String := ".".intercalate path

def Clash.message : Clash → String
  | duplicate key none => s!"duplicate key `{key}`"
  | duplicate key (some []) => s!"duplicate key `{key}` in document root"
  | duplicate key (some path) => s!"duplicate key `{key}` in table `{pathText path}`"
  | closed path kind =>
    s!"dotted key `{pathText path}` attempted to extend non-table type ({kind})"

def findEntry? {ι : Type} (name : String) : List (Key × ι) → Option ι
  | [] => none
  | (key,i) :: rest => if key.text = name then some i else findEntry? name rest

/-- Put a value under a key, in the place of the value it had. -/
def putEntry {ι : Type} (key : Key) (value : ι) : List (Key × ι) → List (Key × ι)
  | [] => [(key,value)]
  | (k,i) :: rest =>
    if k.text = key.text then (k,value) :: rest else (k,i) :: putEntry key value rest

def dropEntry {ι : Type} (name : String) (entries : List (Key × ι)) : List (Key × ι) :=
  entries.filter (·.1.text ≠ name)

namespace TableOf

def find? (t : Table) (name : String) : Option Item := findEntry? name t.entries

def put (t : Table) (key : Key) (i : Item) : Table := { t with entries := putEntry key i t.entries }

def erase (t : Table) (name : String) : Table := { t with entries := dropEntry name t.entries }

end TableOf

/-- A table that is made on the way to another one. -/
def passing (inBraces dotted : Bool) : Table := ⟨⟨none,inBraces,true,dotted⟩,[]⟩

def keyTexts (path : List Key) : List String := path.map (·.text)

/-- Change the table at the end of a path, making the tables on the way, and say what the change
found. The last of several tables under a header stands for them all. Behind a dotted key only
implicit tables are entered. -/
def descend {γ : Type} (inBraces dotted : Bool) (change : Table → Except Clash (γ × Table)) :
    (behind path : List Key) → Table → Except Clash (γ × Table)
  | _, [], t => change t
  | behind, key :: path, t =>
    let next := behind ++ [key]
    match t.find? key.text with
    | none => do
      let (found,child) ← descend inBraces dotted change next path (passing inBraces dotted)
      return (found,t.put key (.table child))
    | some (.table child) =>
      if child.head.inBraces && !inBraces then
        .error (.closed (keyTexts next) (Item.table child).kind)
      else if dotted && !child.head.implicit then .error (.duplicate key.text none)
      else do
        let (found,child) ← descend inBraces dotted change next path child
        return (found,t.put key (.table child))
    | some (.tables span items) =>
      match items.getLast? with
      | some (.table last) => do
        let (found,last) ← descend inBraces dotted change next path last
        return (found,t.put key (.tables span (items.dropLast ++ [.table last])))
      | _ => .error (.closed (keyTexts next) (Item.tables span items).kind)
    | some i => .error (.closed (keyTexts next) i.kind)

/-- Define a key in a table, through the tables on its dotted path. -/
def define (inBraces : Bool) (home : Option (List String)) (path : List Key) (key : Key)
    (value : Item) (t : Table) : Except Clash Table :=
  let add (t : Table) : Except Clash (Unit × Table) :=
    if t.head.dotted = path.isEmpty then .error (.duplicate key.text none)
    else if (t.find? key.text).isSome then .error (.duplicate key.text home)
    else .ok ((),t.put key value)
  (descend inBraces true add [] path t).map (·.2)

end Blueprint.Toml
