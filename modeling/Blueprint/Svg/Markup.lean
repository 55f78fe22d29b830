import Blueprint.Decimal.Text

/-!
Markup: text with its special characters written as entities, and the tags around it.
-/

namespace Blueprint.Svg

/-- A character of the text as it is written between tags and in attributes. -/
def escapeChar (c : Char) : List Char :=
  match c with
  | '&' => ['&','a','m','p',';']
  | '<' => ['&','l','t',';']
  | '>' => ['&','g','t',';']
  | '"' => ['&','q','u','o','t',';']
  | '\'' => ['&','a','p','o','s',';']
  | c => [c]

def escape (text : List Char) : List Char := text.flatMap escapeChar

/-- An attribute with a value that is written as it stands. -/
def attr (name : String) (value : List Char) : List Char :=
  ' ' :: name.toList ++ '=' :: '"' :: value ++ ['"']

/-- The text of a number in a drawing. -/
def number (x : Float) : List Char := Decimal.plainChars (.ofFloat x)

def numberAttr (name : String) (x : Float) : List Char := attr name (number x)

/-- The beginning of a tag: its name and its attributes. -/
def tagStart (name : String) (attributes : List (List Char)) : List Char :=
  '<' :: name.toList ++ attributes.flatten

/-- The tag of an element that encloses others. -/
def openTag (name : String) (attributes : List (List Char)) : List Char :=
  tagStart name attributes ++ ['>']

def closeTag (name : String) : List Char := '<' :: '/' :: name.toList ++ ['>']

/-- An element without content. -/
def emptyElement (name : String) (attributes : List (List Char)) : List Char :=
  tagStart name attributes ++ ['/','>']

/-- An element around a text. -/
def textElement (name : String) (attributes : List (List Char)) (text : List Char) : List Char :=
  openTag name attributes ++ escape text ++ closeTag name

end Blueprint.Svg
