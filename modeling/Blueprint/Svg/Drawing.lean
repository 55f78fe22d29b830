import Blueprint.Layout.Compute
import Blueprint.Svg.Theme

/-!
Layouts drawn as SVG: a group for each room, with its fills, its walls, its furnishings and its
name, then a group for each door and window.
-/

namespace Blueprint

open Svg (Step number)

/-- Whether a host is the room or one of its parts. -/
def isHostedBy (host room : String) : Bool :=
  host == room || (room.toList ++ ['.']).isPrefixOf host.toList

def PlacedFurnishing.steps (f : PlacedFurnishing Float) : List Step :=
  let fill :=
    match f.color with
    | none => []
    | some color => Svg.attr "fill" (Svg.escape color.toList)
  let shape : Step :=
    match f.shape with
    | .square => .rect f.rect ["object"] fill
    | .circle =>
      .circle f.rect.center (Scalar.half (Scalar.least f.rect.width f.rect.height)) ["object"] fill
  shape :: (f.text.map fun t => Step.text t.toList f.rect.center ["label","object-label"]).toList

/-- The fills of a shape: the room itself, then its parts. -/
def Composite.fills (c : Composite Float) : List Step :=
  c.rectangles.mapIdx fun i r => .rect r [if i = 0 then "room-fill" else "part-fill"] []

/-- Fills come first, so that no member paints over the walls of another one. -/
def Composite.steps (c : Composite Float) (debug : Bool) : List Step :=
  c.fills ++ c.outline.map (fun s => .line s ["wall"]) ++
    if debug then c.seams.map (fun s => .line s ["shared-edge"]) else []

/-- A group with everything that a room shows. -/
def Layout.roomSteps (layout : Layout Float) (config : Svg.Config) (id : String)
    (shape : Composite Float) : List Step :=
  let label : Option Step :=
    (layout.rooms.find? (·.id == id)).map fun r =>
      .text (r.name.getD r.id).toList r.rect.center ["label"]
  .openGroup ("room-" ++ id).toList ["room"] :: shape.steps config.debug ++
    (layout.furnishings.filter (isHostedBy ·.host id)).flatMap PlacedFurnishing.steps ++
    (if config.labels then label.toList else []) ++ [.closeGroup]

/-- The quarter circle of a door as path commands. -/
def SwingArc.commands (a : SwingArc Float) : List Char :=
  'M' :: number a.start.x ++ ' ' :: number a.start.y ++ ' ' :: 'A' :: number a.radius ++
    ' ' :: number a.radius ++ " 0 0 ".toList ++ (if a.sweep then '1' else '0') ::
    ' ' :: number a.stop.x ++ ' ' :: number a.stop.y

/-- A group with the gap in the wall and what fills it. -/
def PlacedOpening.steps (o : PlacedOpening Float) : List Step :=
  let d := o.drawing
  [.openGroup o.elementId.toList [o.kind.name],.polygon d.outline ["opening"]] ++
    (d.leaf.map fun s => Step.line s ["door-leaf"]).toList ++
    (d.arc.map fun a => Step.path a.commands ["door-swing"]).toList ++
    (d.pane.map fun s => Step.line s ["window-pane"]).toList ++ [.closeGroup]

def Layout.steps (layout : Layout Float) (config : Svg.Config) : List Step :=
  layout.composites.flatMap (fun (id,shape) => layout.roomSteps config id shape) ++
    layout.openings.flatMap PlacedOpening.steps

def Layout.svg (layout : Layout Float) (config : Svg.Config) (sheet : Stylesheet) : String :=
  let canvas : Svg.Canvas := ⟨config,Svg.theme config sheet,layout.steps config⟩
  String.ofList (canvas.document layout.bounds)

end Blueprint
