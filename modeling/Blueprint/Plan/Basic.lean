import Blueprint.Plan.Reference
import Blueprint.Geometry.Rect

/-!
Plans as they are declared: rooms with their parts and furnishings, and the doors and windows cut
into walls. Nothing is placed yet; every room and part only says what it is pinned to.
-/

namespace Blueprint

/-- A rectangle pinned by one of its corners to a corner of a target. -/
structure Block (α : Type) where
  id : String
  name : Option String
  width : α
  depth : α
  /-- The corner that sits on the attachment point. -/
  anchor : Corner
  attachTo : Attachment
  /-- How far the rectangle is moved once its corner sits there. -/
  offset : α × α
  deriving DecidableEq, Repr, Inhabited

inductive Shape where
  | square
  | circle
  deriving DecidableEq, Repr, Inhabited

/-- A square or circle that decorates a room or part. -/
structure Furnishing (α : Type) where
  shape : Shape
  x : α
  y : α
  /-- The width of a square, the diameter of a circle. -/
  width : α
  height : Option α
  color : Option String
  text : Option String
  /-- The corner of the furnishing that sits on its place. -/
  anchor : Corner
  /-- The corner of the host from which `x` and `y` are measured. -/
  roomAnchor : Corner
  deriving DecidableEq, Repr, Inhabited

/-- The extent of a furnishing's bounding box. -/
def Furnishing.size {α : Type} (f : Furnishing α) : α × α :=
  match f.shape with
  | .square => (f.width,f.height.getD f.width)
  | .circle => (f.width,f.width)

structure Part (α : Type) extends Block α where
  furnishings : List (Furnishing α)
  deriving DecidableEq, Repr, Inhabited

structure Room (α : Type) extends Block α where
  parts : List (Part α)
  furnishings : List (Furnishing α)
  deriving DecidableEq, Repr, Inhabited

/-- How a door swings, seen from inside the room and facing the wall. -/
inductive Swing where
  | inwardsLeft
  | inwardsRight
  | outwardsLeft
  | outwardsRight
  | opening
  deriving DecidableEq, Repr, Inhabited

inductive DoorKind where
  | normal
  | opening
  deriving DecidableEq, Repr, Inhabited

/-- A stretch of wall that is cut out. -/
structure Window (α : Type) where
  /-- The wall, as `host:wall`. -/
  room : String
  offset : α
  width : α
  depth : Option α
  deriving DecidableEq, Repr, Inhabited

structure Door (α : Type) extends Window α where
  swing : Swing
  kind : DoorKind
  deriving DecidableEq, Repr, Inhabited

structure Plan (α : Type) where
  rooms : List (Room α)
  doors : List (Door α)
  windows : List (Window α)
  deriving DecidableEq, Repr, Inhabited

namespace Shape

def all : List Shape := [square,circle]

def name : Shape → String
  | square => "square"
  | circle => "circle"

end Shape

namespace Swing

def all : List Swing := [inwardsLeft,inwardsRight,outwardsLeft,outwardsRight,opening]

def name : Swing → String
  | inwardsLeft => "inwards-left"
  | inwardsRight => "inwards-right"
  | outwardsLeft => "outwards-left"
  | outwardsRight => "outwards-right"
  | opening => "opening"

end Swing

namespace DoorKind

def all : List DoorKind := [normal,opening]

def name : DoorKind → String
  | normal => "normal"
  | opening => "opening"

end DoorKind

/-- Whether an opening is a door or a window. -/
inductive OpeningKind where
  | door
  | window
  deriving DecidableEq, Repr, Inhabited

def OpeningKind.name : OpeningKind → String
  | door => "door"
  | window => "window"

/-- How an opening is drawn. -/
inductive OpeningStyle where
  | door (swing : Swing) (kind : DoorKind)
  | window
  deriving DecidableEq, Repr, Inhabited

/-- A door or window with its place among its kind. -/
structure Opening (α : Type) extends Window α where
  kind : OpeningKind
  index : Nat
  style : OpeningStyle
  deriving DecidableEq, Repr, Inhabited

/-- The name of an opening in messages; counting starts at one. -/
def OpeningKind.ordinal (kind : OpeningKind) (index : Nat) : String :=
  s!"{kind.name} #{index + 1}"

/-- All doors, then all windows, each numbered from zero. -/
def Plan.openings {α : Type} (plan : Plan α) : List (Opening α) :=
  plan.doors.mapIdx (fun i d => ⟨d.toWindow,.door,i,.door d.swing d.kind⟩) ++
    plan.windows.mapIdx (fun i w => ⟨w,.window,i,.window⟩)

/-- The name of a part together with its room. -/
structure PartKey where
  room : String
  part : String
  deriving DecidableEq, Repr, Inhabited

def PartKey.text (key : PartKey) : String := key.room ++ "." ++ key.part

end Blueprint
