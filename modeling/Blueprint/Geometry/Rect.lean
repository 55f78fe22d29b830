import Blueprint.Geometry.Corner

/-!
Points, segments and axis-aligned rectangles. The y axis points down.
-/

namespace Blueprint

structure Point (α : Type) where
  x : α
  y : α
  deriving DecidableEq, Repr, Inhabited

structure Segment (α : Type) where
  start : Point α
  stop : Point α
  deriving DecidableEq, Repr, Inhabited

/-- A rectangle by its top-left corner and its extent. -/
structure Rect (α : Type) where
  x : α
  y : α
  width : α
  height : α
  deriving DecidableEq, Repr, Inhabited

variable {α : Type} [Scalar α]
open Scalar

namespace Point

def origin : Point α := ⟨zero,zero⟩

def translate (p : Point α) (dx dy : α) : Point α := ⟨p.x + dx,p.y + dy⟩

end Point

namespace Segment

/-- The level segment between two x coordinates, from left to right. -/
def horizontal (y x₁ x₂ : α) : Segment α := ⟨⟨least x₁ x₂,y⟩,⟨greatest x₁ x₂,y⟩⟩

/-- The upright segment between two y coordinates, from top to bottom. -/
def vertical (x y₁ y₂ : α) : Segment α := ⟨⟨x,least y₁ y₂⟩,⟨x,greatest y₁ y₂⟩⟩

end Segment

namespace Rect

/-- The rectangle without extent at the origin. -/
def zero : Rect α := ⟨Scalar.zero,Scalar.zero,Scalar.zero,Scalar.zero⟩

def right (r : Rect α) : α := r.x + r.width

def bottom (r : Rect α) : α := r.y + r.height

def topLeft (r : Rect α) : Point α := ⟨r.x,r.y⟩

def center (r : Rect α) : Point α := ⟨r.x + half r.width,r.y + half r.height⟩

def corner (r : Rect α) (c : Corner) : Point α :=
  let (dx,dy) := c.displacement r.width r.height
  r.topLeft.translate dx dy

/-- Whether the two insides share more than the tolerance in both directions. -/
def intersects (r s : Rect α) : Bool :=
  r.x < s.right - tolerance && s.x + tolerance < r.right &&
    r.y < s.bottom - tolerance && s.y + tolerance < r.bottom

/-- The smallest rectangle that covers both. -/
def union (r s : Rect α) : Rect α :=
  let x := least r.x s.x
  let y := least r.y s.y
  ⟨x,y,greatest r.right s.right - x,greatest r.bottom s.bottom - y⟩

/-- The rectangle grown by an amount on every side. -/
def inflate (r : Rect α) (amount : α) : Rect α :=
  ⟨r.x - amount,r.y - amount,r.width + double amount,r.height + double amount⟩

/-- The smallest rectangle that covers a list, if there is anything to cover. -/
def cover? : List (Rect α) → Option (Rect α)
  | [] => none
  | r :: rs => some (rs.foldl union r)

/-- The length of the side on a wall. -/
def side (r : Rect α) (w : Wall) : α := if w.isHorizontal then r.width else r.height

end Rect

end Blueprint
