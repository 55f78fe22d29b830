import Blueprint.Layout.Compute
import Blueprint.Plan.Written

/-!
Layouts as JSON. Rooms and shapes are keyed by the room's id, parts by their full name.
-/

namespace Blueprint

open Json (Value optional)

def Point.toJson (p : Point Float) : Value := .object [("x",.float p.x),("y",.float p.y)]

def Segment.toJson (s : Segment Float) : Value :=
  .object [("start",s.start.toJson),("end",s.stop.toJson)]

def Rect.toJson (r : Rect Float) : Value :=
  .object [("x",.float r.x),("y",.float r.y),("width",.float r.width),
    ("height",.float r.height)]

def Composite.toJson (c : Composite Float) : Value :=
  .object [("rectangles",.array (c.rectangles.map Rect.toJson)),
    ("shared_edges",.array (c.seams.map Segment.toJson))]

def PlacedRoom.toJson (r : PlacedRoom Float) : Value :=
  .object ([("id",.string r.id)] ++ optional "name" .string r.name ++ [("rect",r.rect.toJson)])

def PlacedPart.toJson (p : PlacedPart Float) : Value :=
  .object ([("key",.string p.key.text)] ++ optional "name" .string p.name
    ++ [("rect",p.rect.toJson)])

def SwingArc.toJson (a : SwingArc Float) : Value :=
  .object [("hinge",a.hinge.toJson),("start",a.start.toJson),("end",a.stop.toJson),
    ("radius",.float a.radius),("sweep",.bool a.sweep)]

def OpeningDrawing.toJson (d : OpeningDrawing Float) : Value :=
  .object ([("outline",.array (d.outline.map Point.toJson))]
    ++ optional "leaf" Segment.toJson d.leaf ++ optional "arc" SwingArc.toJson d.arc
    ++ optional "pane" Segment.toJson d.pane)

def PlacedOpening.toJson (o : PlacedOpening Float) : Value :=
  .object ([("kind",.string o.kind.name),("index",.nat o.index),("host",.string o.host),
      ("wall",.string o.wall.name),("offset",.float o.offset),("width",.float o.width),
      ("depth",.float o.depth),("position",o.position.toJson),("rotation",.float o.rotation),
      ("wall_length",.float o.wallLength)]
    ++ optional "swing" (fun d => .string d.1.name) o.door
    ++ optional "door_type" (fun d => .string d.2.name) o.door
    ++ [("geometry",o.drawing.toJson)])

def PlacedFurnishing.toJson (f : PlacedFurnishing Float) : Value :=
  .object ([("host",.string f.host),("index",.nat f.index),("shape",.string f.shape.name),
      ("rect",f.rect.toJson)]
    ++ optional "color" .string f.color ++ optional "text" .string f.text)

def stringArray (names : List String) : Value := .array (names.map .string)

def Failure.toJson : Failure → Value
  | .missingTarget id target =>
    .object [("kind",.string "missingReference"),("id",.string id),("target",.string target)]
  | .cycle members =>
    .object [("kind",.string "circularDependency"),("cycle",stringArray members)]
  | .unplacedTarget id target =>
    .object [("kind",.string "unresolvedDependency"),("id",.string id),
      ("target",.string target)]
  | .outOfPasses passes remaining =>
    .object [("kind",.string "maxIterationsExceeded"),("iterations",.nat passes),
      ("remaining",stringArray remaining)]
  | .duplicate id => .object [("kind",.string "duplicateId"),("id",.string id)]
  | .wallReference element reference reason =>
    .object [("kind",.string "invalidWallReference"),("element",.string element),
      ("reference",.string reference),("reason",.string reason)]
  | .noOrigin required =>
    .object [("kind",.string "noOriginAttachment"),("required",.bool required)]

def Layout.toJson (l : Layout Float) : Value :=
  .object [("rooms",.object (l.rooms.map fun r => (r.id,r.toJson))),
    ("parts",.object (l.parts.map fun p => (p.key.text,p.toJson))),
    ("composites",.object (l.composites.map fun (id,c) => (id,c.toJson))),
    ("openings",.array (l.openings.map PlacedOpening.toJson)),
    ("objects",.array (l.furnishings.map PlacedFurnishing.toJson)),
    ("bounds",l.bounds.toJson),("errors",.array (l.failures.map Failure.toJson))]

end Blueprint
