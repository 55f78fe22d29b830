import Blueprint.Geometry.Composite
import Blueprint.Layout.Opening
import Blueprint.Layout.Rooms

/-!
The layout of a plan: rooms and parts in their places, one shape per room, furnishings, openings and
the viewport.
-/

namespace Blueprint

structure PlacedFurnishing (α : Type) where
  /-- The name of the room or part that it stands in. -/
  host : String
  /-- Its place among the furnishings of its host. -/
  index : Nat
  shape : Shape
  /-- Its bounding box. -/
  rect : Rect α
  color : Option String
  text : Option String
  deriving DecidableEq, Repr, Inhabited

structure PlacedOpening (α : Type) where
  kind : OpeningKind
  index : Nat
  host : String
  wall : Wall
  offset : α
  width : α
  depth : α
  position : Point α
  /-- Degrees, clockwise. -/
  rotation : α
  /-- The length of the host's wall. -/
  wallLength : α
  /-- How a door swings, and its kind; windows have neither. -/
  door : Option (Swing × DoorKind)
  drawing : OpeningDrawing α
  deriving DecidableEq, Repr, Inhabited

/-- The name of the opening's group in a drawing. -/
def PlacedOpening.elementId {α : Type} (o : PlacedOpening α) : String :=
  s!"{o.kind.name}-{o.index}"

structure Layout (α : Type) where
  rooms : List (PlacedRoom α)
  parts : List (PlacedPart α)
  /-- One shape per placed room, by its id. -/
  composites : List (String × Composite α)
  openings : List (PlacedOpening α)
  furnishings : List (PlacedFurnishing α)
  /-- The padded viewport. -/
  bounds : Rect α
  failures : List Failure
  deriving DecidableEq, Repr, Inhabited

variable {α : Type} [Scalar α]
open Scalar

/-- The parts of one room, in the order of declaration. -/
def partsOf (parts : List (PlacedPart α)) (room : String) : List (PlacedPart α) :=
  parts.filter (·.key.room == room)

/-- The shape of a room and its placed parts. -/
def compositeOf (parts : List (PlacedPart α)) (room : PlacedRoom α) : Composite α :=
  .ofRects (room.rect :: (partsOf parts room.id).map (·.rect))

/-- The box of a furnishing in its host: its place is counted from a corner of the host, and its own
anchor corner sits there. -/
def Furnishing.rectIn (f : Furnishing α) (host : Rect α) : Rect α :=
  let reference := host.corner f.roomAnchor
  let (width,height) := f.size
  let (ax,ay) := f.anchor.displacement width height
  ⟨reference.x + f.x - ax,reference.y + f.y - ay,width,height⟩

def placeFurnishings (name : String) (host : Rect α) (fs : List (Furnishing α)) :
    List (PlacedFurnishing α) :=
  fs.mapIdx fun i f => ⟨name,i,f.shape,f.rectIn host,f.color,f.text⟩

namespace Placement

def room? (p : Placement α) (id : String) : Option (PlacedRoom α) := p.rooms.find? (·.id == id)

def part? (p : Placement α) (key : PartKey) : Option (PlacedPart α) := p.parts.find? (·.key == key)

/-- The furnishings of a room and of its parts, of first declarations only. -/
def furnishingsOf (p : Placement α) (room : Room α) : List (PlacedFurnishing α) :=
  match p.room? room.id with
  | none => []
  | some placed =>
    placeFurnishings room.id placed.rect room.furnishings ++
      (firstBy (·.id) [] room.parts).flatMap fun part =>
        let key : PartKey := ⟨room.id,part.id⟩
        match p.part? key with
        | none => []
        | some placed => placeFurnishings key.text placed.rect part.furnishings

/-- The name and rectangle of what a host name refers to: a part by its full name, else a room, else
the first part with that id. -/
def host? (p : Placement α) (host : String) : Option (String × Rect α) :=
  let qualified := do
    let (room,part) ← Text.splitFirst? '.' host.toList
    p.part? ⟨String.ofList room,String.ofList part⟩
  match qualified with
  | some part => some (part.key.text,part.rect)
  | none =>
    match p.room? host with
    | some room => some (room.id,room.rect)
    | none => (p.parts.find? (·.key.part == host)).map fun part => (part.key.text,part.rect)

end Placement

/-- Place an opening on the wall it names, or say why it cannot be placed. -/
def placeOpening (config : LayoutConfig α) (placement : Placement α) (o : Opening α) :
    Except Failure (PlacedOpening α) :=
  let invalid (reason : String) : Failure :=
    .wallReference (o.kind.ordinal o.index) o.room reason
  match WallReference.parse o.room with
  | .error e => .error (invalid (WallReference.complaint e))
  | .ok reference =>
    match placement.host? reference.host with
    | none => .error (invalid s!"room or part '{reference.host}' is not resolved")
    | some (host,rect) =>
      let depth := o.depth.getD config.openingDepth
      let place := placeOnWall rect reference.wall o.offset o.width
      .ok
        { kind := o.kind
          index := o.index
          host
          wall := reference.wall
          offset := o.offset
          width := o.width
          depth
          position := place.position
          rotation := place.rotation
          wallLength := rect.side reference.wall
          door := match o.style with
            | .door swing kind => some (swing,kind)
            | .window => none
          drawing := drawOpening place reference.wall o.width depth o.style }

/-- The viewport around some rectangles: their cover, padded on every side by a part of its larger
extent. -/
def viewport (config : LayoutConfig α) (rects : List (Rect α)) : Rect α :=
  match Rect.cover? rects with
  | none => config.emptyViewport
  | some cover => cover.inflate (greatest cover.width cover.height * config.padding)

/-- Every placed rectangle, room by room. -/
def Layout.rects (layout : Layout α) : List (Rect α) :=
  layout.composites.flatMap (·.2.rectangles)

/-- Lay out a plan. -/
def Plan.layout (plan : Plan α) (config : LayoutConfig α) : Layout α :=
  let placement := placePlan config plan.rooms
  let composites := placement.rooms.map fun r => (r.id,compositeOf placement.parts r)
  let attempts := plan.openings.map (placeOpening config placement)
  { rooms := placement.rooms
    parts := placement.parts
    composites
    openings := attempts.filterMap fun | .ok o => some o | .error _ => none
    furnishings := (Plan.firstRooms plan.rooms).flatMap placement.furnishingsOf
    bounds := viewport config (composites.flatMap (·.2.rectangles))
    failures := placement.failures ++
      attempts.filterMap fun | .ok _ => none | .error e => some e }

/-- Whether anything failed that no further pass could place. -/
def Layout.hasErrors (layout : Layout α) : Bool :=
  layout.failures.any (·.severity == .error)

end Blueprint
