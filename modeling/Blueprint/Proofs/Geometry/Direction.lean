import Blueprint.Proofs.Geometry.Exact
import Mathlib.Tactic.Ring

/-!
Directions, in exact coordinates: the way from one point to another, as a point seen from the
origin. The y axis points down, so a quarter turn clockwise takes the direction of x to that of y.
-/

namespace Blueprint

namespace Point

/-- The way from one point to another. -/
def toward (p q : Point Rat) : Point Rat := ⟨q.x - p.x,q.y - p.y⟩

def dot (u v : Point Rat) : Rat := u.x * v.x + u.y * v.y

/-- Positive if the shorter turn from one direction to another is clockwise, y pointing down. -/
def cross (u v : Point Rat) : Rat := u.x * v.y - u.y * v.x

/-- Positive if the shorter turn from one direction to another goes a given way round. -/
def turn (clockwise : Bool) (u v : Point Rat) : Rat := if clockwise then u.cross v else v.cross u

/-- A direction a quarter turn farther round. -/
def quarterTurn (clockwise : Bool) (u : Point Rat) : Point Rat :=
  if clockwise then ⟨-u.y,u.x⟩ else ⟨u.y,-u.x⟩

variable (clockwise : Bool) (u v : Point Rat)

theorem turn_eq_dot : u.turn clockwise v = (u.quarterTurn clockwise).dot v := by
  cases clockwise <;> simp [turn,cross,quarterTurn,dot] <;> ring

theorem dot_comm : u.dot v = v.dot u := by
  simp only [dot]
  ring

@[simp] theorem dot_quarterTurn_quarterTurn :
    (u.quarterTurn clockwise).dot (v.quarterTurn clockwise) = u.dot v := by
  cases clockwise
  · simp only [quarterTurn,dot,Bool.false_eq_true,if_false]
    ring
  · simp only [quarterTurn,dot,if_true]
    ring

theorem dot_quarterTurn : u.dot (u.quarterTurn clockwise) = 0 := by
  cases clockwise <;> simp [quarterTurn,dot] <;> ring

theorem turn_quarterTurn : u.turn clockwise (v.quarterTurn clockwise) = u.dot v := by
  rw [turn_eq_dot,dot_quarterTurn_quarterTurn]

theorem cross_quarterTurn :
    u.cross (u.quarterTurn clockwise) = if clockwise then u.dot u else -u.dot u := by
  cases clockwise <;> simp [quarterTurn,cross,dot]
  ring

end Point

end Blueprint
