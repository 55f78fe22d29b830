import Blueprint.Geometry.Rotation
import Blueprint.Plan.Basic

/-!
Doors and windows on a wall. An opening is drawn once in a frame of its own, in which the wall runs
along x from the base point and the room lies towards y, and the drawing is turned into place about
the base point. On bottom and left walls the turned drawing runs against the wall's offsets, so it
is first moved back by its width: every opening covers its offset to its offset plus its width,
counted from the wall's start.
-/

namespace Blueprint

variable {α : Type} [Scalar α]
open Scalar

/-- Where an opening sits on its wall. -/
structure WallPlace (α : Type) where
  /-- The start of the wall, moved along it by the opening's offset. -/
  position : Point α
  /-- Degrees, clockwise. -/
  rotation : α
  /-- The stretch of wall that is covered. -/
  span : Segment α
  deriving DecidableEq, Repr, Inhabited

def Wall.rotation (w : Wall) : α := whole (90 * w.quarterTurns)

/-- The place of something of a given width on a wall. It may run past the end of the wall. -/
def placeOnWall (rect : Rect α) (wall : Wall) (offset width : α) : WallPlace α :=
  let base := rect.corner wall.start
  if wall.isHorizontal then
    ⟨base.translate offset zero,wall.rotation,
      .horizontal base.y (base.x + offset) (base.x + offset + width)⟩
  else
    ⟨base.translate zero offset,wall.rotation,
      .vertical base.x (base.y + offset) (base.y + offset + width)⟩

/-- The quarter circle that a door leaf swings through. -/
structure SwingArc (α : Type) where
  hinge : Point α
  /-- The tip of the open leaf. -/
  start : Point α
  /-- The jamb that the leaf closes on. -/
  stop : Point α
  radius : α
  /-- Whether the arc runs clockwise on the page. -/
  sweep : Bool
  deriving DecidableEq, Repr, Inhabited

/-- What is drawn of a door or window, in the coordinates of the plan. -/
structure OpeningDrawing (α : Type) where
  /-- The corners of the gap in the wall, in order. -/
  outline : List (Point α)
  leaf : Option (Segment α)
  arc : Option (SwingArc α)
  pane : Option (Segment α)
  deriving DecidableEq, Repr, Inhabited

/-- Where a leaf hangs along the wall, and the side it opens to: one into the room, minus one out of
it. A door without a leaf has neither. -/
def swingFrame? (swing : Swing) (kind : DoorKind) (width : α) : Option (α × α) :=
  match kind with
  | .opening => none
  | .normal =>
    match swing with
    | .inwardsLeft => some (zero,whole 1)
    | .inwardsRight => some (width,whole 1)
    | .outwardsLeft => some (zero,whole (-1))
    | .outwardsRight => some (width,whole (-1))
    | .opening => none

/-- The drawing of an opening, turned into its place. -/
def drawOpening (place : WallPlace α) (wall : Wall) (width depth : α) (style : OpeningStyle) :
    OpeningDrawing α :=
  let turn : Rotation α := ⟨place.rotation,place.position⟩
  let shift := if wall.isReversed then -width else zero
  let world (x y : α) : Point α := turn.applyLocal ⟨x + shift,y⟩
  let reach := half depth
  let outline := [world zero (-reach),world width (-reach),world width reach,world zero reach]
  match style with
  | .window => ⟨outline,none,none,some ⟨world zero zero,world width zero⟩⟩
  | .door swing kind =>
    match swingFrame? swing kind width with
    | none => ⟨outline,none,none,none⟩
    | some (hingeX,direction) =>
      let jambX := width - hingeX
      let hinge := world hingeX zero
      let tip := world hingeX (direction * width)
      let jamb := world jambX zero
      let cross := -direction * width * (jambX - hingeX)
      ⟨outline,some ⟨hinge,tip⟩,some ⟨hinge,tip,jamb,width,decide (zero < cross)⟩,none⟩

end Blueprint
