import Blueprint.Geometry.Rect

/-!
Rotation about a point. Angles are in degrees and clockwise, the y axis pointing down: a quarter
turn takes the direction of x to the direction of y. Quarter turns are exact.
-/

namespace Blueprint

structure Rotation (α : Type) where
  degrees : α
  center : Point α
  deriving DecidableEq, Repr, Inhabited

variable {α : Type} [Scalar α]
open Scalar

namespace Rotation

/-- Whether the angle is a whole number of turns. -/
def isIdentity (t : Rotation α) : Bool :=
  magnitude (withinTurn t.degrees) < quotient 1 (Decimal.twoPow 52)

/-- Cosine and sine after a number of quarter turns. -/
def quarterTurn (n : Int) : α × α :=
  match n % 4 with
  | 0 => (whole 1,zero)
  | 1 => (zero,whole 1)
  | 2 => (whole (-1),zero)
  | _ => (zero,whole (-1))

def cosSin (t : Rotation α) : α × α :=
  let angle := withinTurn t.degrees
  let quarters := angle / whole 90
  let nearest := nearestInt quarters
  if magnitude (quarters - whole nearest) < quotient 1 1000000000000 then quarterTurn nearest
  else Scalar.cosSin angle

def apply (t : Rotation α) (p : Point α) : Point α :=
  if t.isIdentity then p
  else
    let (c,s) := t.cosSin
    let dx := p.x - t.center.x
    let dy := p.y - t.center.y
    ⟨t.center.x + dx * c - dy * s,t.center.y + dx * s + dy * c⟩

/-- The place of a point that is given relative to the center. -/
def applyLocal (t : Rotation α) (p : Point α) : Point α := t.apply (t.center.translate p.x p.y)

end Rotation

end Blueprint
