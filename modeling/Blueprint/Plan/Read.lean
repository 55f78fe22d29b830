import Blueprint.Document.Record
import Blueprint.Plan.Basic

/-!
Plans read off documents, of whatever format. Only the form is checked here; numbers and ids are
checked once the plan is read.
-/

namespace Blueprint

open Document (Node Fault RecordField Record required)

def Corner.read (n : Node) : Except Fault Corner := n.asVariant Corner.all Corner.name

def Attachment.read (n : Node) : Except Fault Attachment := do
  let text ← n.asString
  match Attachment.parse text with
  | .ok a => return a
  | .error e => .error ⟨Attachment.complaint text e,none⟩

/-- A furnishing of which some fields have been read. -/
structure Furnishing.Draft where
  shape : Option Shape := none
  x : Option Float := none
  y : Option Float := none
  width : Option Float := none
  height : Option (Option Float) := none
  color : Option (Option String) := none
  text : Option (Option String) := none
  anchor : Option Corner := none
  roomAnchor : Option Corner := none

namespace Furnishing

def fields : List (RecordField Draft) :=
  [.of "type" none true (·.shape) (fun d v => { d with shape := some v })
      (·.asVariant Shape.all Shape.name),
   .of "x" none true (·.x) (fun d v => { d with x := some v }) Node.asFloat,
   .of "y" none true (·.y) (fun d v => { d with y := some v }) Node.asFloat,
   .of "width" none false (·.width) (fun d v => { d with width := some v }) Node.asFloat,
   .of "height" none true (·.height) (fun d v => { d with height := some v })
      (Node.asOption Node.asFloat),
   .of "color" none true (·.color) (fun d v => { d with color := some v })
      (Node.asOption Node.asString),
   .of "text" none true (·.text) (fun d v => { d with text := some v })
      (Node.asOption Node.asString),
   .of "anchor" none true (·.anchor) (fun d v => { d with anchor := some v }) Corner.read,
   .of "roomAnchor" (some "room_anchor") true (·.roomAnchor)
      (fun d v => { d with roomAnchor := some v }) Corner.read]

def finish (d : Draft) : Except String (Furnishing Float) := do
  let width ← required "width" d.width
  return {
    shape := d.shape.getD .square
    x := d.x.getD 0
    y := d.y.getD 0
    width
    height := d.height.join
    color := d.color.join
    text := d.text.join
    anchor := d.anchor.getD .topLeft
    roomAnchor := d.roomAnchor.getD .topLeft }

def record : Record Draft (Furnishing Float) := ⟨"struct RoomObject",fields,{},finish⟩

def read (n : Node) : Except Fault (Furnishing Float) := record.read n

end Furnishing

/-- A room or part of which some fields have been read. -/
structure Room.Draft where
  id : Option String := none
  name : Option (Option String) := none
  width : Option Float := none
  depth : Option Float := none
  anchor : Option Corner := none
  attachTo : Option Attachment := none
  offset : Option (Float × Float) := none
  parts : Option (List (Part Float)) := none
  furnishings : Option (List (Furnishing Float)) := none

namespace Room

/-- The fields that rooms and parts share. -/
def blockFields : List (RecordField Draft) :=
  [.of "id" none false (·.id) (fun d v => { d with id := some v }) Node.asString,
   .of "name" none true (·.name) (fun d v => { d with name := some v })
      (Node.asOption Node.asString),
   .of "width" none false (·.width) (fun d v => { d with width := some v }) Node.asFloat,
   .of "depth" none false (·.depth) (fun d v => { d with depth := some v }) Node.asFloat,
   .of "anchor" none true (·.anchor) (fun d v => { d with anchor := some v }) Corner.read,
   .of "attachTo" (some "attach_to") false (·.attachTo) (fun d v => { d with attachTo := some v })
      Attachment.read,
   .of "offset" none true (·.offset) (fun d v => { d with offset := some v }) Node.asPair]

def furnishingField : RecordField Draft :=
  .of "objects" none true (·.furnishings) (fun d v => { d with furnishings := some v })
    (Node.asList Furnishing.read)

def finishBlock (d : Draft) : Except String (Block Float) := do
  let id ← required "id" d.id
  let width ← required "width" d.width
  let depth ← required "depth" d.depth
  let attachTo ← required "attachTo" d.attachTo
  return {
    id
    name := d.name.join
    width
    depth
    anchor := d.anchor.getD .topLeft
    attachTo
    offset := d.offset.getD (0,0) }

end Room

namespace Part

def finish (d : Room.Draft) : Except String (Part Float) := do
  let block ← Room.finishBlock d
  return { toBlock := block, furnishings := d.furnishings.getD [] }

def record : Record Room.Draft (Part Float) :=
  ⟨"struct RoomPart",Room.blockFields ++ [Room.furnishingField],{},finish⟩

def read (n : Node) : Except Fault (Part Float) := record.read n

end Part

namespace Room

def partField : RecordField Draft :=
  .of "parts" none true (·.parts) (fun d v => { d with parts := some v }) (Node.asList Part.read)

def finish (d : Draft) : Except String (Room Float) := do
  let block ← finishBlock d
  return { toBlock := block, parts := d.parts.getD [], furnishings := d.furnishings.getD [] }

def record : Record Draft (Room Float) :=
  ⟨"struct Room",blockFields ++ [partField,furnishingField],{},finish⟩

def read (n : Node) : Except Fault (Room Float) := record.read n

end Room

/-- A door or window of which some fields have been read. -/
structure Door.Draft where
  room : Option String := none
  offset : Option Float := none
  width : Option Float := none
  depth : Option (Option Float) := none
  swing : Option Swing := none
  kind : Option DoorKind := none

namespace Window

def fields : List (RecordField Door.Draft) :=
  [.of "room" none false (·.room) (fun d v => { d with room := some v }) Node.asString,
   .of "offset" none true (·.offset) (fun d v => { d with offset := some v }) Node.asFloat,
   .of "width" none false (·.width) (fun d v => { d with width := some v }) Node.asFloat,
   .of "depth" none true (·.depth) (fun d v => { d with depth := some v })
      (Node.asOption Node.asFloat)]

def finish (d : Door.Draft) : Except String (Window Float) := do
  let room ← required "room" d.room
  let width ← required "width" d.width
  return { room, offset := d.offset.getD 0, width, depth := d.depth.join }

def record : Record Door.Draft (Window Float) := ⟨"struct Window",fields,{},finish⟩

def read (n : Node) : Except Fault (Window Float) := record.read n

end Window

namespace Door

def fields : List (RecordField Draft) :=
  Window.fields ++
    [.of "swing" none true (·.swing) (fun d v => { d with swing := some v })
        (·.asVariant Swing.all Swing.name),
     .of "type" none true (·.kind) (fun d v => { d with kind := some v })
        (·.asVariant DoorKind.all DoorKind.name)]

def finish (d : Draft) : Except String (Door Float) := do
  let window ← Window.finish d
  return {
    toWindow := window
    swing := d.swing.getD .inwardsRight
    kind := d.kind.getD .normal }

def record : Record Draft (Door Float) := ⟨"struct Door",fields,{},finish⟩

def read (n : Node) : Except Fault (Door Float) := record.read n

end Door

/-- A plan of which some lists have been read. -/
structure Plan.Draft where
  rooms : Option (List (Room Float)) := none
  doors : Option (List (Door Float)) := none
  windows : Option (List (Window Float)) := none

namespace Plan

def fields : List (RecordField Draft) :=
  [.of "rooms" none true (·.rooms) (fun d v => { d with rooms := some v }) (Node.asList Room.read),
   .of "doors" none true (·.doors) (fun d v => { d with doors := some v }) (Node.asList Door.read),
   .of "windows" none true (·.windows) (fun d v => { d with windows := some v })
      (Node.asList Window.read)]

def finish (d : Draft) : Except String (Plan Float) :=
  .ok ⟨d.rooms.getD [],d.doors.getD [],d.windows.getD []⟩

def record : Record Draft (Plan Float) := ⟨"struct FloorPlan",fields,{},finish⟩

def read (n : Node) : Except Fault (Plan Float) := record.read n

end Plan

end Blueprint
