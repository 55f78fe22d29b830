import Blueprint.Layout.Opening
import Blueprint.Proofs.Geometry.QuarterTurn
import Mathlib.Data.List.Rotate
import Mathlib.Tactic.Ring

/-!
Openings in walls, in exact coordinates. An opening is drawn in a frame of its own and turned into
its wall. Whatever the wall, the drawing covers the stretch that the offset and the width say, and
reaches half of the depth to either side of the wall.
-/

namespace Blueprint

/-! ### Points of a wall -/

namespace Wall

/-- The direction in which offsets are counted along a wall. -/
def along (w : Wall) : Point Rat := if w.isHorizontal then ⟨1,0⟩ else ⟨0,1⟩

/-- The direction from a wall into the room. -/
def inward : Wall → Point Rat
  | top => ⟨0,1⟩
  | bottom => ⟨0,-1⟩
  | left => ⟨1,0⟩
  | right => ⟨-1,0⟩

/-- The point so far along a wall from a point of its line, and so far into the room. -/
def point (w : Wall) (base : Point Rat) (onward inside : Rat) : Point Rat :=
  base.translate (onward * w.along.x + inside * w.inward.x)
    (onward * w.along.y + inside * w.inward.y)

/-- The box around a stretch of a wall that reaches half of a depth to either side. -/
def box (w : Wall) (span : Segment Rat) (depth : Rat) : Rect Rat :=
  if w.isHorizontal then
    ⟨span.start.x,span.start.y - depth / 2,span.stop.x - span.start.x,depth⟩
  else ⟨span.start.x - depth / 2,span.start.y,depth,span.stop.y - span.start.y⟩

end Wall

/-- The corners of a rectangle, clockwise from the top left. -/
def Rect.corners (r : Rect Rat) : List (Point Rat) :=
  [.topLeft,.topRight,.bottomRight,.bottomLeft].map r.corner

/-! ### Turning into a wall -/

/-- The turn into a wall is a number of quarter turns. -/
theorem Rotation.applyLocal_rotation (w : Wall) (center p : Point Rat) :
    Rotation.applyLocal ⟨w.rotation,center⟩ p =
      center.translate
        (p.x * (quarterTurn w.quarterTurns).1 - p.y * (quarterTurn w.quarterTurns).2)
        (p.x * (quarterTurn w.quarterTurns).2 + p.y * (quarterTurn w.quarterTurns).1) := by
  have hangle : (w.rotation : Rat) = 90 * (w.quarterTurns : Int) := by
    rw [Wall.rotation,Scalar.whole_rat]
    push_cast
    rfl
  have hlocal := turnedLocal_quarters Scalar.cosSin center w.quarterTurns p
  rw [← hangle,turnedLocal,Scalar.exact_cosSin] at hlocal
  rw [hlocal,Point.zpow_clockwise]

/-- Where a point of the frame of an opening comes to lie: as far inside the room as it is drawn. On
a wall that is reversed, the frame runs back from the end of the opening. -/
def Wall.framed (w : Wall) (position : Point Rat) (width x y : Rat) : Point Rat :=
  w.point position (if w.isReversed then width - x else x) y

theorem Wall.applyLocal_eq_framed (w : Wall) (position : Point Rat) (width x y : Rat) :
    Rotation.applyLocal ⟨w.rotation,position⟩ ⟨x + (if w.isReversed then -width else 0),y⟩ =
      w.framed position width x y := by
  rw [Rotation.applyLocal_rotation]
  cases w <;>
    simp [Rotation.quarterTurn,quarterTurns,isReversed,framed,point,along,isHorizontal,inward,
      Point.translate] <;>
    ring

section Drawing

variable (wall : Wall) (position : Point Rat) (span : Segment Rat) (width depth : Rat)

/-- The corners of the gap in the wall are the same for doors and windows. -/
theorem outline_drawOpening (style : OpeningStyle) :
    (drawOpening ⟨position,wall.rotation,span⟩ wall width depth style).outline =
      [wall.framed position width 0 (-(depth / 2)),wall.framed position width width (-(depth / 2)),
        wall.framed position width width (depth / 2),wall.framed position width 0 (depth / 2)] := by
  have houtline : (drawOpening ⟨position,wall.rotation,span⟩ wall width depth style).outline =
      (drawOpening ⟨position,wall.rotation,span⟩ wall width depth .window).outline := by
    cases style with
    | window => rfl
    | door swing kind =>
      unfold drawOpening
      dsimp only
      cases swingFrame? swing kind width <;> rfl
  rw [houtline]
  simp only [drawOpening,Scalar.zero_rat,Scalar.half_rat,Wall.applyLocal_eq_framed]

theorem pane_drawOpening :
    (drawOpening ⟨position,wall.rotation,span⟩ wall width depth .window).pane =
      some ⟨wall.framed position width 0 0,wall.framed position width width 0⟩ := by
  simp only [drawOpening,Scalar.zero_rat,Wall.applyLocal_eq_framed]

end Drawing

/-! ### Openings in their walls -/

/-- The stretch of a wall from an offset on, counted from the start of the wall. -/
def Wall.stretch (w : Wall) (start : Point Rat) (offset width : Rat) : Segment Rat :=
  ⟨w.point start offset 0,w.point start (offset + width) 0⟩

/-- The corners of the gap, as they are drawn, go round the box of the stretch. -/
theorem Wall.framed_eq_corners (w : Wall) (start : Point Rat) (offset width depth : Rat) :
    [w.framed (w.stretch start offset width).start width 0 (-(depth / 2)),
      w.framed (w.stretch start offset width).start width width (-(depth / 2)),
      w.framed (w.stretch start offset width).start width width (depth / 2),
      w.framed (w.stretch start offset width).start width 0 (depth / 2)] =
      (w.box (w.stretch start offset width) depth).corners.rotate w.quarterTurns := by
  cases w <;>
    simp [framed,stretch,point,along,inward,isHorizontal,isReversed,box,quarterTurns,Rect.corners,
      Rect.corner,Rect.topLeft,Corner.displacement,Point.translate,List.rotate] <;>
    constructor <;> ring

/-- The ends of the frame are those of the stretch, in one order or the other. -/
theorem Wall.framed_eq_ends (w : Wall) (start : Point Rat) (offset width : Rat) :
    (⟨w.framed (w.stretch start offset width).start width 0 0,
      w.framed (w.stretch start offset width).start width width 0⟩ : Segment Rat) =
      if w.isReversed then
        ⟨(w.stretch start offset width).stop,(w.stretch start offset width).start⟩
      else w.stretch start offset width := by
  cases w <;>
    simp [framed,stretch,point,along,inward,isHorizontal,isReversed,Point.translate,add_assoc]

section Covered

variable (rect : Rect Rat) (wall : Wall) (offset width depth : Rat) (style : OpeningStyle)

/-- An opening is at the beginning of its stretch of the wall. -/
theorem placeOnWall_eq {width : Rat} (hwidth : 0 < width) : placeOnWall rect wall offset width =
    ⟨(wall.stretch (rect.corner wall.start) offset width).start,wall.rotation,
      wall.stretch (rect.corner wall.start) offset width⟩ := by
  have hle (a : Rat) : a ≤ a + width := by linarith
  cases wall <;>
    simp [placeOnWall,Segment.horizontal,Segment.vertical,Wall.stretch,Wall.point,Wall.along,
      Wall.isHorizontal,Point.translate,hle,add_assoc]

/-- What an opening covers of its wall, and what is drawn of it. -/
structure OpeningCovers : Prop where
  /-- The stretch of the wall from the offset on, counted from the wall's start. -/
  span : (placeOnWall rect wall offset width).span =
    wall.stretch (rect.corner wall.start) offset width
  position : (placeOnWall rect wall offset width).position =
    (placeOnWall rect wall offset width).span.start
  /-- The corners of the box around this stretch, clockwise from one of them on. -/
  outline : (drawOpening (placeOnWall rect wall offset width) wall width depth style).outline =
    (wall.box (placeOnWall rect wall offset width).span depth).corners.rotate wall.quarterTurns
  /-- The pane of a window runs from end to end of the stretch, one way or the other. -/
  pane : style = .window →
    (drawOpening (placeOnWall rect wall offset width) wall width depth style).pane =
      some (if wall.isReversed then
          ⟨(placeOnWall rect wall offset width).span.stop,
            (placeOnWall rect wall offset width).span.start⟩
        else (placeOnWall rect wall offset width).span)

variable {width}

/-- On every wall an opening covers its stretch of the wall, to the same depth on both sides. -/
theorem opening_covers (hwidth : 0 < width) :
    OpeningCovers rect wall offset width depth style where
  span := by rw [placeOnWall_eq rect wall offset hwidth]
  position := by rw [placeOnWall_eq rect wall offset hwidth]
  outline := by
    rw [placeOnWall_eq rect wall offset hwidth,outline_drawOpening,Wall.framed_eq_corners]
  pane := by
    rintro rfl
    rw [placeOnWall_eq rect wall offset hwidth,pane_drawOpening,Wall.framed_eq_ends]

end Covered

/-- A window in the left wall of a room, which the drawing runs up against the offsets. -/
theorem opening_covers_left :
    (drawOpening (placeOnWall (⟨1,2,8,6⟩ : Rect Rat) .left 1 2) .left 2 1 .window).outline =
      [⟨1 / 2,5⟩,⟨1 / 2,3⟩,⟨3 / 2,3⟩,⟨3 / 2,5⟩] ∧
    (0 : Rat) < 2 ∧ OpeningCovers ⟨1,2,8,6⟩ .left 1 2 1 .window :=
  ⟨by decide +kernel,by decide,opening_covers ⟨1,2,8,6⟩ .left 1 1 .window (by decide)⟩

end Blueprint
