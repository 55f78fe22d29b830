import Blueprint.Decimal.Text
import Blueprint.Layout.Compute

/-!
Defects that a layout puts up with: openings that run past their wall or share a stretch of it, and
members of one shape that overlap instead of touching. The checks change nothing.
-/

namespace Blueprint

/-- An opening by kind and index, with the wall that holds it. -/
structure OpeningName where
  kind : OpeningKind
  index : Nat
  host : String
  wall : Wall
  deriving DecidableEq, Repr, Inhabited

def OpeningName.text (n : OpeningName) : String :=
  s!"{n.kind.ordinal n.index} on {n.host}:{n.wall.name}"

inductive Lint (α : Type) where
  /-- The opening begins an amount before the start of its wall. -/
  | startsBefore (opening : OpeningName) (amount : α)
  /-- The opening ends an amount beyond a wall of the given length. -/
  | pastEnd (opening : OpeningName) (amount wallLength : α)
  /-- Two openings share a stretch of one wall. -/
  | sharedWall (first second : OpeningName) (amount : α)
  /-- Two members of one shape share an area. -/
  | sharedArea (first second : String) (width height : α)
  deriving DecidableEq, Repr, Inhabited

namespace Lint

def category {α : Type} : Lint α → String
  | startsBefore _ _ => "overflow"
  | pastEnd _ _ _ => "overflow"
  | sharedWall _ _ _ => "overlap"
  | sharedArea _ _ _ _ => "part-overlap"

/-- Lengths are written in whole units. -/
def message : Lint Float → String
  | startsBefore o amount => s!"{o.text} starts {Decimal.fixed 0 amount} before the wall"
  | pastEnd o amount length =>
    let wall := Decimal.fixed 0 length
    s!"{o.text} extends {Decimal.fixed 0 amount} past the end of the {wall} wall"
  | sharedWall a b amount => s!"{a.text} and {b.text} overlap by {Decimal.fixed 0 amount}"
  | sharedArea a b width height =>
    let area := Decimal.fixed 0 width ++ "x" ++ Decimal.fixed 0 height
    s!"\"{a}\" and \"{b}\" overlap by {area}"

def text (l : Lint Float) : String := s!"[{l.category}] {l.message}"

end Lint

variable {α : Type} [Scalar α]
open Scalar

def PlacedOpening.name (o : PlacedOpening α) : OpeningName := ⟨o.kind,o.index,o.host,o.wall⟩

def lintEnds (o : PlacedOpening α) : List (Lint α) :=
  let stop := o.offset + o.width
  (if o.offset < -tolerance then [.startsBefore o.name (-o.offset)] else []) ++
    if o.wallLength + tolerance < stop then
      [.pastEnd o.name (stop - o.wallLength) o.wallLength]
    else []

def lintPair (a b : PlacedOpening α) : List (Lint α) :=
  if a.host = b.host ∧ a.wall = b.wall then
    let shared := least (a.offset + a.width) (b.offset + b.width) - greatest a.offset b.offset
    if tolerance < shared then [.sharedWall a.name b.name shared] else []
  else []

/-- Apply a check to every pair, in order. -/
def eachPair {β γ : Type} (check : β → β → List γ) : List β → List γ
  | [] => []
  | a :: rest => rest.flatMap (check a) ++ eachPair check rest

def lintMembers (a b : String × Rect α) : List (Lint α) :=
  if a.2.intersects b.2 then
    [.sharedArea a.1 b.1 (least a.2.right b.2.right - greatest a.2.x b.2.x)
      (least a.2.bottom b.2.bottom - greatest a.2.y b.2.y)]
  else []

/-- The members of a shape with their names: the room, then its parts. -/
def Layout.members (layout : Layout α) (room : String) (shape : Composite α) :
    List (String × Rect α) :=
  let names := room :: (partsOf layout.parts room).map (·.key.text)
  shape.rectangles.mapIdx fun i r => (names[i]?.getD "?",r)

/-- All warnings: openings past their walls, then openings that overlap, then members that do. -/
def Layout.lint (layout : Layout α) : List (Lint α) :=
  layout.openings.flatMap lintEnds ++ eachPair lintPair layout.openings ++
    layout.composites.flatMap fun (room,shape) => eachPair lintMembers (layout.members room shape)

end Blueprint
