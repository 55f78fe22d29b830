import Blueprint.Json.Value
import Blueprint.Plan.Basic

/-!
Plans as JSON. Fields come in a fixed order; what is absent, and lists of parts and furnishings that
are empty, are left out.
-/

namespace Blueprint

open Json (Value optional)

def Corner.toJson (c : Corner) : Value := .string c.name

def Attachment.toJson (a : Attachment) : Value := .string a.text

/-- The member, unless its list is empty. -/
def unlessEmpty {β : Type} (key : String) (f : β → Value) (items : List β) :
    List (String × Value) :=
  if items.isEmpty then [] else [(key,.array (items.map f))]

def Furnishing.toJson (f : Furnishing Float) : Value :=
  .object <|
    [("type",.string f.shape.name),("x",.float f.x),("y",.float f.y),
      ("width",.float f.width)]
      ++ optional "height" .float f.height ++ optional "color" .string f.color
      ++ optional "text" .string f.text
      ++ [("anchor",f.anchor.toJson),("roomAnchor",f.roomAnchor.toJson)]

def Block.members (b : Block Float) : List (String × Value) :=
  [("id",.string b.id)] ++ optional "name" .string b.name
    ++ [("width",.float b.width),("depth",.float b.depth),("anchor",b.anchor.toJson),
      ("attachTo",b.attachTo.toJson),("offset",.array [.float b.offset.1,.float b.offset.2])]

def Part.toJson (p : Part Float) : Value :=
  .object (p.members ++ unlessEmpty "objects" Furnishing.toJson p.furnishings)

def Room.toJson (r : Room Float) : Value :=
  .object (r.members ++ unlessEmpty "parts" Part.toJson r.parts
    ++ unlessEmpty "objects" Furnishing.toJson r.furnishings)

def Window.members (w : Window Float) : List (String × Value) :=
  [("room",.string w.room),("offset",.float w.offset),("width",.float w.width)]
    ++ optional "depth" .float w.depth

def Window.toJson (w : Window Float) : Value := .object w.members

def Door.toJson (d : Door Float) : Value :=
  .object (d.members ++ [("swing",.string d.swing.name),("type",.string d.kind.name)])

def Plan.toJson (p : Plan Float) : Value :=
  .object [("rooms",.array (p.rooms.map Room.toJson)),("doors",.array (p.doors.map Door.toJson)),
    ("windows",.array (p.windows.map Window.toJson))]

end Blueprint
