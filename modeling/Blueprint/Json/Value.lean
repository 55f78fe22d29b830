import Blueprint.Decimal.Text

/-!
JSON values and their texts. The members of an object keep their order. The compact text has no
blanks; the indented text puts each item on a line of its own, two blanks deeper than its container.
-/

namespace Blueprint.Json

inductive Value where
  | null
  | bool (b : Bool)
  | int (n : Int)
  | float (x : Float)
  | string (s : String)
  | array (items : List Value)
  | object (members : List (String × Value))
  deriving Inhabited

def Value.nat (n : Nat) : Value := .int n

/-- The member, if there is something to say. -/
def optional {β : Type} (key : String) (f : β → Value) : Option β → List (String × Value)
  | none => []
  | some b => [(key,f b)]

def hexDigit (n : Nat) : Char := (Nat.digitChar n)

/-- A character inside a string: quotes, backslashes and control characters are escaped. -/
def escapeChar (c : Char) : List Char :=
  match c with
  | '"' => ['\\','"']
  | '\\' => ['\\','\\']
  | '\n' => ['\\','n']
  | '\r' => ['\\','r']
  | '\t' => ['\\','t']
  | '\x08' => ['\\','b']
  | '\x0c' => ['\\','f']
  | c =>
    if c.toNat < 32 then
      ['\\','u','0','0',hexDigit (c.toNat / 16),hexDigit (c.toNat % 16)]
    else [c]

def stringChars (s : List Char) : List Char := '"' :: s.flatMap escapeChar ++ ['"']

def intChars (n : Int) : List Char := Decimal.signed (n < 0) (Decimal.digitChars n.natAbs)

def nullChars : List Char := ['n','u','l','l']

/-- A float in the style of documents; what is no finite number is written as nothing. -/
def floatChars (x : Float) : List Char :=
  match Decimal.Reading.ofFloat x with
  | .finite d => Decimal.documentStyle.chars d
  | _ => nullChars

/-- How the items of a container are set apart. -/
inductive Style where
  | compact
  | indented
  deriving DecidableEq, Repr

/-- What stands before an item or a closing bracket at a depth. -/
def Style.lineBreak (style : Style) (depth : Nat) : List Char :=
  match style with
  | .compact => []
  | .indented => '\n' :: List.replicate (2 * depth) ' '

def Style.colon : Style → List Char
  | .compact => [':']
  | .indented => [':',' ']

/-- The written items of a container between its brackets. -/
def Style.enclose (style : Style) (depth : Nat) (opening closing : Char) :
    List (List Char) → List Char
  | [] => [opening,closing]
  | first :: rest =>
    let gap := style.lineBreak (depth + 1)
    opening :: gap ++ first ++ rest.flatMap (fun item => ',' :: gap ++ item) ++
      style.lineBreak depth ++ [closing]

mutual

def Value.chars (style : Style) (depth : Nat) : Value → List Char
  | .null => nullChars
  | .bool true => ['t','r','u','e']
  | .bool false => ['f','a','l','s','e']
  | .int n => intChars n
  | .float x => floatChars x
  | .string s => stringChars s.toList
  | .array items => style.enclose depth '[' ']' (itemChars style (depth + 1) items)
  | .object members => style.enclose depth '\x7b' '\x7d' (memberChars style (depth + 1) members)

def itemChars (style : Style) (depth : Nat) : List Value → List (List Char)
  | [] => []
  | v :: rest => v.chars style depth :: itemChars style depth rest

def memberChars (style : Style) (depth : Nat) : List (String × Value) → List (List Char)
  | [] => []
  | (key,v) :: rest =>
    (stringChars key.toList ++ style.colon ++ v.chars style depth) :: memberChars style depth rest

end

def Value.compact (v : Value) : String := String.ofList (v.chars .compact 0)

def Value.pretty (v : Value) : String := String.ofList (v.chars .indented 0)

end Blueprint.Json
