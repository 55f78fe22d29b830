import Blueprint.Scalar

/-!
The corners and sides of an axis-aligned rectangle, by name.
-/

namespace Blueprint

inductive Corner where
  | topLeft
  | topRight
  | bottomLeft
  | bottomRight
  deriving DecidableEq, Repr, Inhabited

namespace Corner

def all : List Corner := [topLeft,topRight,bottomLeft,bottomRight]

def name : Corner → String
  | topLeft => "top-left"
  | topRight => "top-right"
  | bottomLeft => "bottom-left"
  | bottomRight => "bottom-right"

def ofName? (text : String) : Option Corner := all.find? (·.name == text)

/-- How far the corner lies from the top-left corner of a rectangle of the given extent. -/
def displacement {α : Type} [Scalar α] (c : Corner) (width height : α) : α × α :=
  match c with
  | topLeft => (Scalar.zero,Scalar.zero)
  | topRight => (width,Scalar.zero)
  | bottomLeft => (Scalar.zero,height)
  | bottomRight => (width,height)

theorem mem_all (c : Corner) : c ∈ all := by cases c <;> simp [all]

@[simp] theorem ofName?_name (c : Corner) : ofName? c.name = some c := by cases c <;> rfl

theorem name_of_ofName? {text : String} {c : Corner} (h : ofName? text = some c) :
    c.name = text := by
  have := List.find?_some h
  simpa using this

end Corner

inductive Wall where
  | top
  | bottom
  | left
  | right
  deriving DecidableEq, Repr, Inhabited

namespace Wall

def all : List Wall := [top,bottom,left,right]

def name : Wall → String
  | top => "top"
  | bottom => "bottom"
  | left => "left"
  | right => "right"

def ofName? (text : String) : Option Wall := all.find? (·.name == text)

/-- The corner from which offsets along the wall are measured. -/
def start : Wall → Corner
  | top => .topLeft
  | left => .topLeft
  | bottom => .bottomLeft
  | right => .topRight

def isHorizontal : Wall → Bool
  | top => true
  | bottom => true
  | left => false
  | right => false

/-- Clockwise quarter turns that take the inside of the top wall to the inside of this wall. -/
def quarterTurns : Wall → Nat
  | top => 0
  | right => 1
  | bottom => 2
  | left => 3

/-- Whether the turned drawing of an opening runs against the wall's offsets. -/
def isReversed : Wall → Bool
  | top => false
  | bottom => true
  | left => true
  | right => false

theorem mem_all (w : Wall) : w ∈ all := by cases w <;> simp [all]

@[simp] theorem ofName?_name (w : Wall) : ofName? w.name = some w := by cases w <;> rfl

theorem name_of_ofName? {text : String} {w : Wall} (h : ofName? text = some w) :
    w.name = text := by
  have := List.find?_some h
  simpa using this

end Wall

end Blueprint
