import Blueprint.Proofs.Geometry.Direction
import Blueprint.Proofs.Layout.Opening
import Blueprint.Proofs.Svg.Escape
import Blueprint.Svg.Drawing
import Mathlib.Tactic.LinearCombination

/-!
Doors as they are drawn, in exact coordinates. The leaf hangs on the side that the swing names and
opens to the side that it names, and its tip moves round the hinge to the other jamb. The path that
is written for it is this quarter circle, and not the mirror image of it.
-/

namespace Blueprint

/-! ### Arcs of a path -/

/-- An arc of a path, written `M start A radius radius 0 0 sweep stop`: it goes from one point of a
circle to another by the shorter way. -/
structure Svg.ShortArc (α : Type) where
  start : Point α
  radius : α
  /-- Whether it goes clockwise on the page. -/
  sweep : Bool
  stop : Point α
  deriving DecidableEq, Repr

namespace Svg.ShortArc

/-- The center of the circle that the arc is on. Two circles of the radius go through its ends; round
the center of the right one the shorter turn from start to stop goes the way of the arc. -/
structure Centered (a : ShortArc Rat) (c : Point Rat) : Prop where
  start : (c.toward a.start).dot (c.toward a.start) = a.radius ^ 2
  stop : (c.toward a.stop).dot (c.toward a.stop) = a.radius ^ 2
  turn : 0 < (c.toward a.start).turn a.sweep (c.toward a.stop)

/-- The points of the arc are those of the circle that are met on the way from start to stop. -/
def Draws (a : ShortArc Rat) (q : Point Rat) : Prop :=
  ∃ c, a.Centered c ∧ (c.toward q).dot (c.toward q) = a.radius ^ 2 ∧
    0 ≤ (c.toward a.start).turn a.sweep (c.toward q) ∧
      0 ≤ (c.toward q).turn a.sweep (c.toward a.stop)

/-- Of the two circles through the ends of a quarter turn, only the one around its center is met the
way of the turn. The other center is twice the square of the radius away, by the square. -/
theorem eq_zero_of_turned {r x y dx dy : Rat} (hstart : x ^ 2 + y ^ 2 = r ^ 2)
    (hfrom : (x - dx) ^ 2 + (y - dy) ^ 2 = r ^ 2) (hto : (-y - dx) ^ 2 + (x - dy) ^ 2 = r ^ 2)
    (hturn : 0 < (x - dx) * (x - dy) - (y - dy) * (-y - dx)) : dx = 0 ∧ dy = 0 := by
  have honto : dx ^ 2 + dy ^ 2 = 2 * (x * dx + y * dy) := by linear_combination hfrom - hstart
  have hacross : dx ^ 2 + dy ^ 2 = 2 * (x * dy - y * dx) := by linear_combination hto - hstart
  have hlt : dx ^ 2 + dy ^ 2 < r ^ 2 := by linarith
  have hprod : (dx ^ 2 + dy ^ 2) * (2 * r ^ 2 - (dx ^ 2 + dy ^ 2)) = 0 := by
    rw [← hstart]
    linear_combination -(dx ^ 2 + dy ^ 2 + 2 * (x * dx + y * dy)) / 2 * honto -
      (dx ^ 2 + dy ^ 2 + 2 * (x * dy - y * dx)) / 2 * hacross
  have hzero : dx ^ 2 + dy ^ 2 = 0 :=
    (mul_eq_zero.mp hprod).resolve_right fun h => by linarith [sq_nonneg dx,sq_nonneg dy]
  obtain ⟨hx,hy⟩ := (add_eq_zero_iff_of_nonneg (sq_nonneg dx) (sq_nonneg dy)).mp hzero
  exact ⟨pow_eq_zero_iff two_ne_zero |>.mp hx,pow_eq_zero_iff two_ne_zero |>.mp hy⟩

section Quarter

variable {a : ShortArc Rat} {h : Point Rat} (hradius : 0 < a.radius)
  (hstart : (h.toward a.start).dot (h.toward a.start) = a.radius ^ 2)
  (hstop : h.toward a.stop = (h.toward a.start).quarterTurn a.sweep)

include hradius hstart hstop

/-- An arc that ends a quarter turn farther round a point has its center there. -/
theorem centered_iff (c : Point Rat) : a.Centered c ↔ c = h := by
  constructor
  · rintro ⟨hfrom,hto,hturn⟩
    obtain ⟨⟨sx,sy⟩,r,sweep,⟨ex,ey⟩⟩ := a
    obtain ⟨hx,hy⟩ := h
    obtain ⟨cx,cy⟩ := c
    simp only [Point.toward,Point.dot] at hstart hfrom hto hturn hstop
    have hsame : cx - hx = 0 ∧ cy - hy = 0 := by
      cases sweep with
      | true =>
        simp only [Point.quarterTurn,if_true,Point.mk.injEq] at hstop
        obtain ⟨hex,hey⟩ := hstop
        obtain rfl : ex = hx - (sy - hy) := by linarith
        obtain rfl : ey = hy + (sx - hx) := by linarith
        simp only [Point.turn,Point.cross,if_true] at hturn
        refine eq_zero_of_turned (r := r) (x := sx - hx) (y := sy - hy) ?_ ?_ ?_ ?_ <;> linarith
      | false =>
        simp only [Point.quarterTurn,Bool.false_eq_true,if_false,Point.mk.injEq] at hstop
        obtain ⟨hex,hey⟩ := hstop
        obtain rfl : ex = hx + (sy - hy) := by linarith
        obtain rfl : ey = hy - (sx - hx) := by linarith
        simp only [Point.turn,Point.cross,Bool.false_eq_true,if_false] at hturn
        -- the same with the coordinates exchanged
        refine (eq_zero_of_turned (r := r) (x := sy - hy) (y := sx - hx) ?_ ?_ ?_ ?_).symm <;>
          linarith
    exact Point.mk.injEq .. ▸ ⟨sub_eq_zero.mp hsame.1,sub_eq_zero.mp hsame.2⟩
  · rintro rfl
    refine ⟨hstart,?_,?_⟩
    · rw [hstop,Point.dot_quarterTurn_quarterTurn,hstart]
    · rw [hstop,Point.turn_quarterTurn,hstart]
      exact pow_pos hradius 2

/-- Such an arc is the quarter of the circle between its ends. -/
theorem draws_iff (q : Point Rat) : a.Draws q ↔
    (h.toward q).dot (h.toward q) = a.radius ^ 2 ∧
      0 ≤ (h.toward a.start).dot (h.toward q) ∧ 0 ≤ (h.toward a.stop).dot (h.toward q) := by
  simp only [Draws,centered_iff hradius hstart hstop,exists_eq_left]
  rw [hstop,Point.turn_quarterTurn,Point.turn_eq_dot,Point.dot_comm (h.toward q) (h.toward a.start),
    and_comm (a := 0 ≤ Point.dot _ _)]

end Quarter

/-- The arc that commands describe, with its numbers as they are written. -/
def read? (commands : List Char) : Option (ShortArc (List Char)) :=
  match commands.splitOn ' ' with
  | ['M' :: x,y,'A' :: rx,ry,['0'],['0'],[sweep],x',y'] =>
    if rx ≠ ry then none
    else if sweep = '1' then some ⟨⟨x,y⟩,rx,true,⟨x',y'⟩⟩
    else if sweep = '0' then some ⟨⟨x,y⟩,rx,false,⟨x',y'⟩⟩
    else none
  | _ => none

/-- The arc with its numbers written. -/
def written (a : ShortArc Float) : ShortArc (List Char) :=
  ⟨⟨number a.start.x,number a.start.y⟩,number a.radius,a.sweep,⟨number a.stop.x,number a.stop.y⟩⟩

end Svg.ShortArc

/-- The path of a swing. -/
def SwingArc.path {α : Type} (a : SwingArc α) : Svg.ShortArc α := ⟨a.start,a.radius,a.sweep,a.stop⟩

/-- The commands of a swing are read as its path. -/
theorem SwingArc.read?_commands (a : SwingArc Float) :
    Svg.ShortArc.read? a.commands = some a.path.written := by
  let sweep : Char := if a.sweep then '1' else '0'
  let words : List (List Char) := ['M' :: Svg.number a.start.x,Svg.number a.start.y,
    'A' :: Svg.number a.radius,Svg.number a.radius,['0'],['0'],[sweep],Svg.number a.stop.x,
    Svg.number a.stop.y]
  have hwords : a.commands = [' '].intercalate words := by
    simp [SwingArc.commands,words,sweep,List.intercalate_cons_cons]
  have hblank : ∀ word ∈ words, ' ' ∉ word := by
    have hsweep : ' ' ≠ sweep := by cases h : a.sweep <;> simp [sweep,h]
    simp [words,Svg.blank_not_mem_number,hsweep]
  have hsplit : a.commands.splitOn ' ' = words := by
    rw [hwords]
    exact List.splitOn_intercalate ' ' hblank (by simp [words])
  rw [Svg.ShortArc.read?,hsplit]
  cases h : a.sweep <;> simp [words,sweep,h,Svg.ShortArc.written,SwingArc.path]

/-! ### Doors on a wall -/

/-- The sides of an observer. -/
inductive Hand where
  | left
  | right
  deriving DecidableEq, Repr

namespace Hand

def name : Hand → String
  | left => "left"
  | right => "right"

/-- The direction to a side of somebody who looks along a direction. -/
def direction (facing : Point Rat) : Hand → Point Rat
  | left => facing.quarterTurn false
  | right => facing.quarterTurn true

end Hand

/-- The side on which a door hangs, for somebody inside the room who faces its wall. -/
def Swing.hand? : Swing → Option Hand
  | inwardsLeft => some .left
  | inwardsRight => some .right
  | outwardsLeft => some .left
  | outwardsRight => some .right
  | opening => none

/-- Whether a door opens into the room. -/
def Swing.isInward : Swing → Bool
  | inwardsLeft => true
  | inwardsRight => true
  | outwardsLeft => false
  | outwardsRight => false
  | opening => false

theorem Swing.hand?_eq_none {swing : Swing} : swing.hand? = none ↔ swing = .opening := by
  cases swing <;> simp [hand?]

/-- The name of a swing tells where it opens to, and on which side. -/
theorem Swing.name_of_hand? {swing : Swing} {hand : Hand} (h : swing.hand? = some hand) :
    swing.name = (if swing.isInward then "inwards-" else "outwards-") ++ hand.name := by
  cases swing <;> cases h <;> rfl

/-- The direction of somebody inside the room who faces a wall. -/
def Wall.outward (w : Wall) : Point Rat := ⟨-w.inward.x,-w.inward.y⟩

/-- How far a hinge on a side is from the beginning of the frame that the door is drawn in. -/
def Hand.place (width : Rat) : Hand → Rat
  | left => 0
  | right => width

/-- The swing of a door that hangs on a side of an opening. The tip goes clockwise if the door hangs
on the right and opens into the room, or on the left and opens out of it. -/
def Wall.swingArc (w : Wall) (position : Point Rat) (width : Rat) (hand : Hand) (isInward : Bool) :
    SwingArc Rat where
  hinge := w.framed position width (hand.place width) 0
  start := w.framed position width (hand.place width) (if isInward then width else -width)
  stop := w.framed position width (width - hand.place width) 0
  radius := width
  sweep := decide (hand = .right) == isInward

theorem swingFrame?_eq (swing : Swing) (kind : DoorKind) (width : Rat) :
    swingFrame? swing kind width = if kind = .opening then none else
      swing.hand?.map fun hand => (hand.place width,if swing.isInward then 1 else -1) := by
  cases kind <;> cases swing <;> simp [swingFrame?,Swing.hand?,Swing.isInward,Hand.place]

section Drawing

variable (wall : Wall) (position : Point Rat) (span : Segment Rat) {width : Rat} (depth : Rat)
  (swing : Swing) (kind : DoorKind)

/-- Doors without a leaf have no swing, others hang and open as they are named. -/
theorem swing_drawOpening (hwidth : 0 < width) :
    (drawOpening ⟨position,wall.rotation,span⟩ wall width depth (.door swing kind)).arc =
        (if kind = .opening then none else swing.hand?.map fun hand =>
          wall.swingArc position width hand swing.isInward) ∧
      (drawOpening ⟨position,wall.rotation,span⟩ wall width depth (.door swing kind)).leaf =
        (drawOpening ⟨position,wall.rotation,span⟩ wall width depth (.door swing kind)).arc.map
          fun arc => ⟨arc.hinge,arc.start⟩ := by
  have hsquare : 0 < width * width := mul_pos hwidth hwidth
  simp only [drawOpening,swingFrame?_eq,Scalar.zero_rat,Wall.applyLocal_eq_framed]
  by_cases hkind : kind = .opening
  · simp [hkind]
  · cases swing <;>
      simp [hkind,Swing.hand?,Swing.isInward,Wall.swingArc,Hand.place,hsquare,hsquare.le]

end Drawing

namespace Wall

variable (w : Wall) (position : Point Rat) (width : Rat) (hand : Hand) (isInward : Bool)

theorem start_swingArc :
    (w.swingArc position width hand isInward).start =
      w.point (w.swingArc position width hand isInward).hinge 0
        (if isInward then width else -width) := by
  cases w <;> simp [swingArc,framed,point,Point.translate,along,inward,isHorizontal]

theorem toward_stop_swingArc :
    (w.swingArc position width hand isInward).hinge.toward
        (w.swingArc position width hand isInward).stop =
      ((w.swingArc position width hand isInward).hinge.toward
        (w.swingArc position width hand isInward).start).quarterTurn
          (w.swingArc position width hand isInward).sweep := by
  cases w <;> cases hand <;> cases isInward <;>
    simp [swingArc,framed,point,Point.translate,Point.toward,Point.quarterTurn,along,inward,
      isHorizontal,isReversed,Hand.place]

/-- The leaf hangs on one end of the stretch of wall and closes on the other. -/
theorem jambs_swingArc (start : Point Rat) (offset : Rat) :
    let arc := w.swingArc (w.stretch start offset width).start width hand isInward
    let span := w.stretch start offset width
    (arc.hinge = span.start ∧ arc.stop = span.stop) ∨
      (arc.hinge = span.stop ∧ arc.stop = span.start) := by
  have hfirst := congrArg Segment.start (w.framed_eq_ends start offset width)
  have hlast := congrArg Segment.stop (w.framed_eq_ends start offset width)
  cases hreversed : w.isReversed <;> simp [hreversed] at hfirst hlast <;>
    cases hand <;> simp [swingArc,Hand.place,hfirst,hlast]

/-- The hinge is on the named side of the other jamb, for somebody who faces the wall. -/
theorem dot_toward_hinge_swingArc :
    ((w.swingArc position width hand isInward).stop.toward
      (w.swingArc position width hand isInward).hinge).dot (hand.direction w.outward) = width := by
  cases w <;> cases hand <;>
    simp [swingArc,framed,point,Point.translate,Point.toward,Point.dot,Point.quarterTurn,along,
      inward,outward,isHorizontal,isReversed,Hand.place,Hand.direction]

theorem dot_toward_inside (inside : Rat) :
    (position.toward (w.point position 0 inside)).dot (position.toward (w.point position 0 inside)) =
      inside ^ 2 := by
  cases w <;> simp [point,Point.translate,Point.toward,Point.dot,along,inward,isHorizontal] <;> ring

end Wall

/-! ### Doors as they are named -/

/-- A door that hangs in a stretch of a wall and swings as it is named. -/
structure SwingsAsNamed (wall : Wall) (span : Segment Rat) (width : Rat) (swing : Swing)
    (hand : Hand) (arc : SwingArc Rat) : Prop where
  named : swing.name = (if swing.isInward then "inwards-" else "outwards-") ++ hand.name
  /-- The leaf hangs on one end of the stretch and closes on the other. -/
  jambs : (arc.hinge = span.start ∧ arc.stop = span.stop) ∨
    (arc.hinge = span.stop ∧ arc.stop = span.start)
  /-- It hangs on the end that is on the named side of somebody inside the room, facing the wall. -/
  hung : 0 < (arc.stop.toward arc.hinge).dot (hand.direction wall.outward)
  /-- Its tip is as far inside the room as it is wide, or as far outside. -/
  tip : arc.start = wall.point arc.hinge 0 (if swing.isInward then width else -width)
  radius : arc.radius = width
  start : (arc.hinge.toward arc.start).dot (arc.hinge.toward arc.start) = width ^ 2
  stop : (arc.hinge.toward arc.stop).dot (arc.hinge.toward arc.stop) = width ^ 2
  square : (arc.hinge.toward arc.start).dot (arc.hinge.toward arc.stop) = 0
  sweep : arc.sweep = true ↔ 0 < (arc.hinge.toward arc.start).cross (arc.hinge.toward arc.stop)
  /-- The path is on the circle around the hinge, and on no other one. -/
  center : ∀ c, arc.path.Centered c ↔ c = arc.hinge
  /-- It is the quarter of this circle between the open leaf and the closed one. -/
  path : ∀ q, arc.path.Draws q ↔ (arc.hinge.toward q).dot (arc.hinge.toward q) = width ^ 2 ∧
    0 ≤ (arc.hinge.toward arc.start).dot (arc.hinge.toward q) ∧
      0 ≤ (arc.hinge.toward arc.stop).dot (arc.hinge.toward q)

theorem swingsAsNamed_swingArc (wall : Wall) (start : Point Rat) (offset : Rat) {width : Rat}
    (hwidth : 0 < width) {swing : Swing} {hand : Hand} (h : swing.hand? = some hand) :
    SwingsAsNamed wall (wall.stretch start offset width) width swing hand
      (wall.swingArc (wall.stretch start offset width).start width hand swing.isInward) := by
  let position := (wall.stretch start offset width).start
  let arc := wall.swingArc position width hand swing.isInward
  have htip : arc.start = wall.point arc.hinge 0 (if swing.isInward then width else -width) :=
    wall.start_swingArc position width hand swing.isInward
  have hturn : arc.hinge.toward arc.stop = (arc.hinge.toward arc.start).quarterTurn arc.sweep :=
    wall.toward_stop_swingArc position width hand swing.isInward
  have hlength : (arc.hinge.toward arc.start).dot (arc.hinge.toward arc.start) = width ^ 2 := by
    rw [htip,Wall.dot_toward_inside]
    cases swing.isInward <;> simp
  have hcross : (arc.hinge.toward arc.start).cross (arc.hinge.toward arc.stop) =
      if arc.sweep then width ^ 2 else -width ^ 2 := by
    rw [hturn,Point.cross_quarterTurn,hlength]
  have hsquare : 0 < width ^ 2 := pow_pos hwidth 2
  refine ⟨Swing.name_of_hand? h,?_,?_,htip,rfl,hlength,?_,?_,?_,?_,?_⟩
  · exact wall.jambs_swingArc width hand swing.isInward start offset
  · rw [wall.dot_toward_hinge_swingArc]
    exact hwidth
  · rw [hturn,Point.dot_quarterTurn_quarterTurn,hlength]
  · rw [hturn,Point.dot_quarterTurn]
  · rw [hcross]
    cases arc.sweep <;> simp [hsquare,hsquare.le]
  · exact Svg.ShortArc.centered_iff hwidth hlength hturn
  · exact Svg.ShortArc.draws_iff hwidth hlength hturn

/-- What is drawn of a door. -/
structure DoorDrawn (rect : Rect Rat) (wall : Wall) (offset width depth : Rat) (swing : Swing)
    (kind : DoorKind) : Prop where
  leaf_eq_none : (drawOpening (placeOnWall rect wall offset width) wall width depth
    (.door swing kind)).leaf = none ↔ kind = .opening ∨ swing = .opening
  arc_eq_none : (drawOpening (placeOnWall rect wall offset width) wall width depth
    (.door swing kind)).arc = none ↔ kind = .opening ∨ swing = .opening
  /-- The leaf runs from the hinge to the tip, where its swing begins. -/
  swings : ∀ arc, (drawOpening (placeOnWall rect wall offset width) wall width depth
    (.door swing kind)).arc = some arc →
      (drawOpening (placeOnWall rect wall offset width) wall width depth
        (.door swing kind)).leaf = some ⟨arc.hinge,arc.start⟩ ∧
      ∃ hand, SwingsAsNamed wall (placeOnWall rect wall offset width).span width swing hand arc

/-- Doors are drawn as they are named, on every wall, and the commands that are written for a swing
are read as the path of it. -/
theorem door_drawn (rect : Rect Rat) (wall : Wall) (offset : Rat) {width : Rat} (hwidth : 0 < width)
    (depth : Rat) (swing : Swing) (kind : DoorKind) :
    DoorDrawn rect wall offset width depth swing kind ∧
      ∀ arc : SwingArc Float, Svg.ShortArc.read? arc.commands = some arc.path.written := by
  have hplace := placeOnWall_eq rect wall offset hwidth
  obtain ⟨harc,hleaf⟩ := swing_drawOpening wall
    (wall.stretch (rect.corner wall.start) offset width).start
    (wall.stretch (rect.corner wall.start) offset width) depth swing kind hwidth
  rw [← hplace] at harc hleaf
  have hnone : (drawOpening (placeOnWall rect wall offset width) wall width depth
      (.door swing kind)).arc = none ↔ kind = .opening ∨ swing = .opening := by
    rw [harc]
    by_cases hkind : kind = .opening <;> simp [hkind,Swing.hand?_eq_none]
  refine ⟨⟨?_,hnone,?_⟩,SwingArc.read?_commands⟩
  · rw [hleaf,Option.map_eq_none_iff,hnone]
  · intro arc h
    refine ⟨by rw [hleaf,h]; rfl,?_⟩
    rw [harc,Option.ite_none_left_eq_some] at h
    obtain ⟨hand,hhand,rfl⟩ := Option.map_eq_some_iff.mp h.2
    rw [hplace]
    exact ⟨hand,swingsAsNamed_swingArc wall _ offset hwidth hhand⟩

/-- A door in the left wall of a room, hung on the right and opening out of the room. -/
theorem door_drawn_left :
    (drawOpening (placeOnWall (⟨1,2,8,6⟩ : Rect Rat) .left 1 2) .left 2 1
        (.door .outwardsRight .normal)).arc = some ⟨⟨1,3⟩,⟨-1,3⟩,⟨1,5⟩,2,false⟩ ∧
    (0 : Rat) < 2 ∧ DoorDrawn ⟨1,2,8,6⟩ .left 1 2 1 .outwardsRight .normal ∧
      ∀ arc : SwingArc Float, Svg.ShortArc.read? arc.commands = some arc.path.written :=
  ⟨by decide +kernel,by decide,
    door_drawn ⟨1,2,8,6⟩ .left 1 (by decide) 1 .outwardsRight .normal⟩

end Blueprint
