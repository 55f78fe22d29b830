import Blueprint.Geometry.Rect

/-!
A room and its parts drawn as one shape. The rectangles are neither clipped nor joined: each pair
that touches along a side has a seam, the stretch that both sides share, and the outline is what
remains of all sides once the seams are cut out.
-/

namespace Blueprint

/-- The rectangles of one shape, the room's own first, and the seams between them. -/
structure Composite (α : Type) where
  rectangles : List (Rect α)
  seams : List (Segment α)
  deriving DecidableEq, Repr, Inhabited

variable {α : Type} [Scalar α]
open Scalar

/-- The coordinate at which one extent ends and the other begins. -/
def touching? (lo₁ hi₁ lo₂ hi₂ : α) : Option α :=
  if close hi₁ lo₂ then some hi₁
  else if close hi₂ lo₁ then some lo₁
  else none

/-- The interval that two extents share, if it is longer than the tolerance. -/
def overlap? (lo₁ hi₁ lo₂ hi₂ : α) : Option (α × α) :=
  let lo := greatest lo₁ lo₂
  let hi := least hi₁ hi₂
  if tolerance < hi - lo then some (lo,hi) else none

/-- The seams of one pair: upright where they touch side by side, level where they are stacked. -/
def pairSeams (a b : Rect α) : List (Segment α) :=
  let upright := do
    let x ← touching? a.x a.right b.x b.right
    let (y₁,y₂) ← overlap? a.y a.bottom b.y b.bottom
    return Segment.vertical x y₁ y₂
  let level := do
    let y ← touching? a.y a.bottom b.y b.bottom
    let (x₁,x₂) ← overlap? a.x a.right b.x b.right
    return Segment.horizontal y x₁ x₂
  upright.toList ++ level.toList

/-- The seams of every pair, in the order of the pairs. -/
def seamsOf : List (Rect α) → List (Segment α)
  | [] => []
  | a :: rest => rest.flatMap (pairSeams a) ++ seamsOf rest

/-- One side of a rectangle: where its line runs, and the interval it covers along that line. -/
structure Side (α : Type) where
  upright : Bool
  line : α
  lo : α
  hi : α
  deriving DecidableEq, Repr, Inhabited

def Rect.sides (r : Rect α) : List (Side α) :=
  [⟨false,r.y,r.x,r.right⟩,⟨false,r.bottom,r.x,r.right⟩,
   ⟨true,r.x,r.y,r.bottom⟩,⟨true,r.right,r.y,r.bottom⟩]

/-- The interval that a seam cuts out of a side: only a seam along the side's line does. -/
def Side.cut? (side : Side α) (seam : Segment α) : Option (α × α) :=
  let upright := close seam.start.x seam.stop.x
  if side.upright then
    if upright && close seam.start.x side.line then some (seam.start.y,seam.stop.y) else none
  else
    if !upright && close seam.start.y side.line then some (seam.start.x,seam.stop.x) else none

def Side.segment (side : Side α) (span : α × α) : Segment α :=
  if side.upright then .vertical side.line span.1 span.2
  else .horizontal side.line span.1 span.2

/-- What is left of the stretch from `cursor` to `hi` after cuts that are sorted by their start. -/
def remaining (hi : α) : (cursor : α) → (cuts : List (α × α)) → List (α × α)
  | cursor, [] => if tolerance < hi - cursor then [(cursor,hi)] else []
  | cursor, (from',upTo) :: cuts =>
    if upTo ≤ cursor + tolerance then remaining hi cursor cuts
    else if hi - tolerance ≤ from' then if tolerance < hi - cursor then [(cursor,hi)] else []
    else
      let rest := remaining hi (greatest cursor upTo) cuts
      if cursor + tolerance < from' then (cursor,from') :: rest else rest

/-- Remove cuts from an interval; what is left comes in order. -/
def subtract (lo hi : α) (cuts : List (α × α)) : List (α × α) :=
  remaining hi lo (cuts.mergeSort fun a b => precedes a.1 b.1)

namespace Composite

def ofRects (rects : List (Rect α)) : Composite α := ⟨rects,seamsOf rects⟩

def cover? (c : Composite α) : Option (Rect α) := Rect.cover? c.rectangles

/-- The segments of one side that no seam covers. -/
def sideOutline (c : Composite α) (side : Side α) : List (Segment α) :=
  (subtract side.lo side.hi (c.seams.filterMap side.cut?)).map side.segment

/-- The sides of all rectangles without the seams. -/
def outline (c : Composite α) : List (Segment α) :=
  c.rectangles.flatMap fun r => r.sides.flatMap c.sideOutline

end Composite

end Blueprint
