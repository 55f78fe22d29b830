import Blueprint.Geometry.Corner
import Blueprint.Text.Split

/-!
References by text: `target:corner` names the point that a rectangle is pinned to, `host:wall` the
wall that holds a door or a window. The text is cut at its last colon, so a target may hold colons
itself.
-/

namespace Blueprint

open Text

/-- The reserved target of rooms: the point at (0, 0). -/
def originName : String := "zeropoint"

/-- The reserved target of parts: the room that owns them. -/
def parentName : String := "parent"

/-- The corner of a target that something is pinned to. -/
structure Attachment where
  target : String
  corner : Corner
  deriving DecidableEq, Repr, Inhabited

/-- A wall of a room or part. -/
structure WallReference where
  host : String
  wall : Wall
  deriving DecidableEq, Repr, Inhabited

/-- Why a text is no reference. -/
inductive ReferenceError where
  | noColon
  | noName
  | unknownPlace (name : String)
  deriving DecidableEq, Repr, Inhabited

/-- Cut a reference at its last colon and look up the name behind it. -/
def parseReference {β : Type} (ofName? : String → Option β) (text : String) :
    Except ReferenceError (String × β) :=
  match splitLast? ':' text.toList with
  | none => .error .noColon
  | some ([],_) => .error .noName
  | some (before,after) =>
    let name := String.ofList after
    match ofName? name with
    | none => .error (.unknownPlace name)
    | some place => .ok (String.ofList before,place)

def commaList (names : List String) : String := ", ".intercalate names

namespace Attachment

def parse (text : String) : Except ReferenceError Attachment :=
  (parseReference Corner.ofName? text).map fun (target,corner) => ⟨target,corner⟩

def text (a : Attachment) : String := a.target ++ ":" ++ a.corner.name

/-- Why `text` is no attachment, in words. -/
def complaint (text : String) : ReferenceError → String
  | .noColon => s!"attachment reference '{text}' must have the form '<target>:<corner>'"
  | .noName => s!"attachment reference '{text}' has an empty target"
  | .unknownPlace name =>
    let known := commaList (Corner.all.map Corner.name)
    s!"unknown corner '{name}' in '{text}' (expected one of: {known})"

end Attachment

namespace WallReference

def parse (text : String) : Except ReferenceError WallReference :=
  (parseReference Wall.ofName? text).map fun (host,wall) => ⟨host,wall⟩

def text (r : WallReference) : String := r.host ++ ":" ++ r.wall.name

/-- Why a text is no wall reference, in words. -/
def complaint : ReferenceError → String
  | .noColon => "expected '<room>:<wall>'"
  | .noName => "missing room id"
  | .unknownPlace name =>
    let known := commaList (Wall.all.map Wall.name)
    s!"unknown wall '{name}' (expected one of: {known})"

end WallReference

end Blueprint
