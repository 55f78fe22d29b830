import Blueprint.Geometry.Composite
import Blueprint.Layout.Compute
import Blueprint.Proofs.Geometry.Exact
import Mathlib.Tactic.Ring

/-!
Moving things over exact coordinates. Whatever is measured between two sides of moved rectangles
stays the same, and whatever is drawn from their corners moves along.
-/

namespace Blueprint

/-! ### What is moved -/

def Point.moveBy (v : Rat × Rat) (p : Point Rat) : Point Rat := p.translate v.1 v.2

def Segment.moveBy (v : Rat × Rat) (s : Segment Rat) : Segment Rat :=
  ⟨s.start.moveBy v,s.stop.moveBy v⟩

def Rect.moveBy (v : Rat × Rat) (r : Rect Rat) : Rect Rat := ⟨r.x + v.1,r.y + v.2,r.width,r.height⟩

def Composite.moveBy (v : Rat × Rat) (c : Composite Rat) : Composite Rat :=
  ⟨c.rectangles.map (·.moveBy v),c.seams.map (·.moveBy v)⟩

def WallPlace.moveBy (v : Rat × Rat) (w : WallPlace Rat) : WallPlace Rat :=
  ⟨w.position.moveBy v,w.rotation,w.span.moveBy v⟩

def SwingArc.moveBy (v : Rat × Rat) (a : SwingArc Rat) : SwingArc Rat :=
  ⟨a.hinge.moveBy v,a.start.moveBy v,a.stop.moveBy v,a.radius,a.sweep⟩

def OpeningDrawing.moveBy (v : Rat × Rat) (d : OpeningDrawing Rat) : OpeningDrawing Rat :=
  ⟨d.outline.map (·.moveBy v),d.leaf.map (·.moveBy v),d.arc.map (·.moveBy v),
    d.pane.map (·.moveBy v)⟩

/-- A block that is pinned with another offset. -/
def Block.moveBy (v : Rat × Rat) (b : Block Rat) : Block Rat :=
  { b with offset := (b.offset.1 + v.1,b.offset.2 + v.2) }

def PlacedRoom.moveBy (v : Rat × Rat) (room : PlacedRoom Rat) : PlacedRoom Rat :=
  { room with rect := room.rect.moveBy v }

def PlacedPart.moveBy (v : Rat × Rat) (part : PlacedPart Rat) : PlacedPart Rat :=
  { part with rect := part.rect.moveBy v }

def PlacedFurnishing.moveBy (v : Rat × Rat) (f : PlacedFurnishing Rat) : PlacedFurnishing Rat :=
  { f with rect := f.rect.moveBy v }

def PlacedOpening.moveBy (v : Rat × Rat) (o : PlacedOpening Rat) : PlacedOpening Rat :=
  { o with position := o.position.moveBy v, drawing := o.drawing.moveBy v }

variable (v : Rat × Rat)

/-! ### Moving nowhere -/

@[simp] theorem Point.moveBy_zero (p : Point Rat) : p.moveBy (0,0) = p := by
  simp [moveBy,translate]

@[simp] theorem Segment.moveBy_zero (s : Segment Rat) : s.moveBy (0,0) = s := by
  simp [moveBy]

@[simp] theorem Rect.moveBy_zero (r : Rect Rat) : r.moveBy (0,0) = r := by
  simp [moveBy]

@[simp] theorem Composite.moveBy_zero (c : Composite Rat) : c.moveBy (0,0) = c := by
  simp [moveBy]

@[simp] theorem SwingArc.moveBy_zero (a : SwingArc Rat) : a.moveBy (0,0) = a := by
  simp [moveBy]

@[simp] theorem OpeningDrawing.moveBy_zero (d : OpeningDrawing Rat) : d.moveBy (0,0) = d := by
  simp [moveBy]

@[simp] theorem PlacedRoom.moveBy_zero (room : PlacedRoom Rat) : room.moveBy (0,0) = room := by
  simp [moveBy]

@[simp] theorem PlacedPart.moveBy_zero (part : PlacedPart Rat) : part.moveBy (0,0) = part := by
  simp [moveBy]

@[simp] theorem PlacedFurnishing.moveBy_zero (f : PlacedFurnishing Rat) : f.moveBy (0,0) = f := by
  simp [moveBy]

@[simp] theorem PlacedOpening.moveBy_zero (o : PlacedOpening Rat) : o.moveBy (0,0) = o := by
  simp [moveBy]

/-! ### Rectangles -/

@[simp] theorem Rect.x_moveBy (r : Rect Rat) : (r.moveBy v).x = r.x + v.1 := rfl

@[simp] theorem Rect.y_moveBy (r : Rect Rat) : (r.moveBy v).y = r.y + v.2 := rfl

@[simp] theorem Rect.right_moveBy (r : Rect Rat) : (r.moveBy v).right = r.right + v.1 := by
  simp only [right,moveBy]
  ring

@[simp] theorem Rect.bottom_moveBy (r : Rect Rat) : (r.moveBy v).bottom = r.bottom + v.2 := by
  simp only [bottom,moveBy]
  ring

@[simp] theorem Rect.side_moveBy (r : Rect Rat) (w : Wall) : (r.moveBy v).side w = r.side w := rfl

theorem Rect.corner_moveBy (r : Rect Rat) (c : Corner) :
    (r.moveBy v).corner c = (r.corner c).moveBy v := by
  simp only [corner,topLeft,Point.moveBy,Point.translate,moveBy,Point.mk.injEq]
  constructor <;> ring

theorem Rect.intersects_moveBy (r s : Rect Rat) :
    (r.moveBy v).intersects (s.moveBy v) = r.intersects s := by
  have hless (a b d e : Rat) : a + d < b + d - e ↔ a < b - e := by
    constructor <;> intro h <;> linarith
  have hmore (a b d e : Rat) : a + d + e < b + d ↔ a + e < b := by
    constructor <;> intro h <;> linarith
  simp only [intersects,x_moveBy,y_moveBy,right_moveBy,bottom_moveBy,hless,hmore]

theorem Block.placeAt_moveBy (b : Block Rat) (p : Point Rat) :
    Pinning.placeAt (b.moveBy v) p = (Pinning.placeAt b p).moveBy v := by
  simp only [Pinning.placeAt,moveBy,Rect.moveBy,Rect.mk.injEq]
  refine ⟨?_,?_,trivial,trivial⟩ <;> ring

theorem Pinning.placeAt_point_moveBy (b : Block Rat) (p : Point Rat) :
    placeAt b (p.moveBy v) = (placeAt b p).moveBy v := by
  simp only [placeAt,Point.moveBy,Point.translate,Rect.moveBy,Rect.mk.injEq]
  refine ⟨?_,?_,trivial,trivial⟩ <;> ring

theorem Furnishing.rectIn_moveBy (f : Furnishing Rat) (host : Rect Rat) :
    f.rectIn (host.moveBy v) = (f.rectIn host).moveBy v := by
  simp only [rectIn,Rect.corner_moveBy]
  simp only [Point.moveBy,Point.translate,Rect.moveBy,Rect.mk.injEq]
  refine ⟨?_,?_,trivial,trivial⟩ <;> ring

/-! ### Seams -/

section Seams

variable (d : Rat) (lo₁ hi₁ lo₂ hi₂ : Rat)

theorem close_add (a b : Rat) : Scalar.close (a + d) (b + d) = Scalar.close a b := by
  have hsub : a + d - (b + d) = a - b := by ring
  rw [Scalar.close,Scalar.close,hsub]

theorem touching?_add : touching? (lo₁ + d) (hi₁ + d) (lo₂ + d) (hi₂ + d) =
    (touching? lo₁ hi₁ lo₂ hi₂).map (· + d) := by
  unfold touching?
  rw [close_add,close_add]
  split
  · rfl
  · split <;> rfl

theorem overlap?_add : overlap? (lo₁ + d) (hi₁ + d) (lo₂ + d) (hi₂ + d) =
    (overlap? lo₁ hi₁ lo₂ hi₂).map fun span => (span.1 + d,span.2 + d) := by
  have hsub (a b : Rat) : a + d - (b + d) = a - b := by ring
  simp only [overlap?,Scalar.greatest_rat,Scalar.least_rat,max_add_add_right,min_add_add_right,hsub]
  split <;> rfl

end Seams

theorem Segment.vertical_moveBy (x y₁ y₂ : Rat) :
    Segment.vertical (x + v.1) (y₁ + v.2) (y₂ + v.2) = (Segment.vertical x y₁ y₂).moveBy v := by
  simp only [vertical,moveBy,Point.moveBy,Point.translate,Scalar.least_rat,Scalar.greatest_rat,
    min_add_add_right,max_add_add_right]

theorem Segment.horizontal_moveBy (y x₁ x₂ : Rat) :
    Segment.horizontal (y + v.2) (x₁ + v.1) (x₂ + v.1) = (Segment.horizontal y x₁ x₂).moveBy v := by
  simp only [horizontal,moveBy,Point.moveBy,Point.translate,Scalar.least_rat,Scalar.greatest_rat,
    min_add_add_right,max_add_add_right]

theorem pairSeams_moveBy (a b : Rect Rat) :
    pairSeams (a.moveBy v) (b.moveBy v) = (pairSeams a b).map (·.moveBy v) := by
  unfold pairSeams
  simp only [Rect.x_moveBy,Rect.y_moveBy,Rect.right_moveBy,Rect.bottom_moveBy,touching?_add,
    overlap?_add,List.map_append]
  congr 1
  · cases touching? a.x a.right b.x b.right with
    | none => rfl
    | some x =>
      cases overlap? a.y a.bottom b.y b.bottom with
      | none => rfl
      | some span => exact congrArg (fun s => [s]) (Segment.vertical_moveBy v x span.1 span.2)
  · cases touching? a.y a.bottom b.y b.bottom with
    | none => rfl
    | some y =>
      cases overlap? a.x a.right b.x b.right with
      | none => rfl
      | some span => exact congrArg (fun s => [s]) (Segment.horizontal_moveBy v y span.1 span.2)

theorem seamsOf_moveBy (rects : List (Rect Rat)) :
    seamsOf (rects.map (·.moveBy v)) = (seamsOf rects).map (·.moveBy v) := by
  induction rects with
  | nil => rfl
  | cons a rest ih =>
    simp only [List.map_cons,seamsOf,List.map_append,List.map_flatMap,List.flatMap_map,
      pairSeams_moveBy,ih]

theorem Composite.ofRects_moveBy (rects : List (Rect Rat)) :
    Composite.ofRects (rects.map (·.moveBy v)) = (Composite.ofRects rects).moveBy v := by
  rw [ofRects,ofRects,moveBy,seamsOf_moveBy]

/-! ### Openings -/

theorem placeOnWall_moveBy (rect : Rect Rat) (wall : Wall) (offset width : Rat) :
    placeOnWall (rect.moveBy v) wall offset width =
      (placeOnWall rect wall offset width).moveBy v := by
  have hcomm (a b d : Rat) : a + d + b = a + b + d := by ring
  have htranslate (p : Point Rat) (dx dy : Rat) :
      (p.moveBy v).translate dx dy = (p.translate dx dy).moveBy v := by
    simp only [Point.moveBy,Point.translate,Point.mk.injEq]
    constructor <;> ring
  unfold placeOnWall
  rw [Rect.corner_moveBy]
  split
  · simp only [WallPlace.moveBy,htranslate,← Segment.horizontal_moveBy]
    simp only [Point.moveBy,Point.translate,hcomm]
  · simp only [WallPlace.moveBy,htranslate,← Segment.vertical_moveBy]
    simp only [Point.moveBy,Point.translate,hcomm]

/-- A turn about a moved center takes the same local points to moved points. -/
theorem Rotation.applyLocal_moveBy (degrees : Rat) (center p : Point Rat) :
    Rotation.applyLocal ⟨degrees,center.moveBy v⟩ p =
      (Rotation.applyLocal ⟨degrees,center⟩ p).moveBy v := by
  have hidentity : Rotation.isIdentity ⟨degrees,center.moveBy v⟩ =
      Rotation.isIdentity ⟨degrees,center⟩ := rfl
  have hcosSin : Rotation.cosSin ⟨degrees,center.moveBy v⟩ =
      Rotation.cosSin ⟨degrees,center⟩ := rfl
  unfold applyLocal apply
  rw [hidentity,hcosSin]
  split
  · simp only [Point.moveBy,Point.translate,Point.mk.injEq]
    constructor <;> ring
  · obtain ⟨c,s⟩ := cosSin ⟨degrees,center⟩
    simp only [Point.moveBy,Point.translate,Point.mk.injEq]
    constructor <;> ring

theorem drawOpening_moveBy (place : WallPlace Rat) (wall : Wall) (width depth : Rat)
    (style : OpeningStyle) : drawOpening (place.moveBy v) wall width depth style =
      (drawOpening place wall width depth style).moveBy v := by
  unfold drawOpening
  simp only [WallPlace.moveBy,Rotation.applyLocal_moveBy]
  cases style with
  | window => rfl
  | door swing kind =>
    dsimp only
    split <;> rfl

end Blueprint
