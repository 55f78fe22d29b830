import Blueprint.Layout.Config
import Blueprint.Layout.Pinning

/-!
The rooms of a plan and their parts in their places. Rooms are pinned first; the parts of every
placed room are then pinned in a list of their own, against that room.
-/

namespace Blueprint

structure PlacedRoom (α : Type) where
  id : String
  name : Option String
  rect : Rect α
  deriving DecidableEq, Repr, Inhabited

structure PlacedPart (α : Type) where
  key : PartKey
  name : Option String
  rect : Rect α
  deriving DecidableEq, Repr, Inhabited

/-- Rooms and parts in their places, and what was left out. -/
structure Placement (α : Type) where
  rooms : List (PlacedRoom α)
  parts : List (PlacedPart α)
  failures : List Failure
  deriving DecidableEq, Repr, Inhabited

/-- The items whose key no earlier item has. -/
def firstBy {β : Type} (key : β → String) : (seen : List String) → List β → List β
  | _, [] => []
  | seen, b :: rest =>
    if seen.contains (key b) then firstBy key seen rest
    else b :: firstBy key (key b :: seen) rest

variable {α : Type} [Scalar α]

def Plan.firstRooms (rooms : List (Room α)) : List (Room α) := firstBy (·.id) [] rooms

/-- Pin the parts of a room that has its place. -/
def Room.pinParts (room : Room α) (rect : Rect α) (maxPasses : Nat) : Pinning α :=
  pin (.parts rect) maxPasses (fun id => (PartKey.mk room.id id).text)
    (room.parts.map Part.toBlock)

/-- The name of the first part with an id. -/
def Room.partName? (room : Room α) (id : String) : Option String :=
  (room.parts.find? (·.id == id)).bind (·.name)

/-- A placed room with its parts. -/
def placeRoom (maxPasses : Nat) (room : Room α) (rect : Rect α) : Placement α :=
  let placed : PlacedRoom α := ⟨room.id,room.name,rect⟩
  if room.parts.isEmpty then ⟨[placed],[],[]⟩
  else
    let pinning := room.pinParts rect maxPasses
    { rooms := [placed]
      parts := pinning.rects.map fun (id,r) => ⟨⟨room.id,id⟩,room.partName? id,r⟩
      failures := pinning.failures }

def Placement.append (p q : Placement α) : Placement α :=
  ⟨p.rooms ++ q.rooms,p.parts ++ q.parts,p.failures ++ q.failures⟩

def attachesToOrigin (room : Room α) : Bool := room.attachTo.target == originName

/-- Pin the rooms, then the parts of each room that found its place. -/
def placeRooms (maxPasses : Nat) (rooms : List (Room α)) : Placement α :=
  let top := pin .rooms maxPasses id (rooms.map Room.toBlock)
  let placed := (Plan.firstRooms rooms).filterMap fun room =>
    (top.rects.lookup room.id).map (placeRoom maxPasses room)
  placed.foldl Placement.append ⟨[],[],top.failures⟩

/-- The advisory that no room is attached to the origin. -/
def originFailures (policy : OriginPolicy) (rooms : List (Room α)) : List Failure :=
  if rooms.isEmpty || rooms.any attachesToOrigin then []
  else
    match policy with
    | .ignore => []
    | .warn => [.noOrigin false]
    | .require => [.noOrigin true]

/-- Place all rooms. Under the strictest policy a plan without a room at the origin is not placed
at all. -/
def placePlan (config : LayoutConfig α) (rooms : List (Room α)) : Placement α :=
  let advisory := originFailures config.originPolicy rooms
  if advisory.contains (.noOrigin true) then ⟨[],[],advisory⟩
  else
    let placement := placeRooms config.maxPasses rooms
    { placement with failures := advisory ++ placement.failures }

end Blueprint
