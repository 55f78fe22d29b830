import Blueprint.Proofs.Geometry.Adjacency
import Blueprint.Proofs.Geometry.Outline

/-!
The outline side by side, for rectangles that may also overlap or nearly touch. It is drawn wall by
wall, rectangle by rectangle. The pieces that are drawn of a side come in order and apart from each
other. Away from the ends of seams they leave out exactly what the seams along the side cover, and
of a seam itself nothing is drawn on either side.
-/

namespace Blueprint

open Scalar

variable {rects : List (Rect Rat)} {side : Side Rat} {upright : Bool} {line : Rat}
  {span : Rat × Rat}

/-! ### Seams along a side -/

theorem straight_inj {upright' : Bool} {line' : Rat} {span' : Rat × Rat} (h : span'.1 < span'.2) :
    straight upright line span = straight upright' line' span' ↔
      upright = upright' ∧ line = line' ∧ span = span' := by
  obtain ⟨lo,hi⟩ := span
  obtain ⟨lo',hi'⟩ := span'
  simp only at h
  constructor
  · intro he
    cases upright <;> cases upright' <;> simp [straight] at he ⊢
    · exact ⟨he.1.2,he.1.1,he.2.1⟩
    · linarith [he.1.2,he.2.2]
    · linarith [he.1.1,he.2.1]
    · exact ⟨he.1.1,he.1.2,he.2.2⟩
  · rintro ⟨rfl,rfl,he⟩
    rw [he]

theorem mem_seamsOf_iff {seam : Segment Rat} : seam ∈ seamsOf rects ↔
    ∃ p ∈ pairsOf rects, ∃ u, Adjacent u p.1 p.2 ∧
      straight u (touchingLine u p.1 p.2) (sharedSpan u p.1 p.2) = seam := by
  simp only [seamsOf_eq_flatMap,List.mem_flatMap,pairSeams_eq,List.mem_append,Option.mem_toList,
    seam?_eq,Option.ite_none_right_eq_some,Option.some.injEq,Bool.exists_bool]
  simp only [or_comm]

theorem straight_mem_seamsOf_iff : straight upright line span ∈ seamsOf rects ↔
    ∃ p ∈ pairsOf rects, Adjacent upright p.1 p.2 ∧ line = touchingLine upright p.1 p.2 ∧
      span = sharedSpan upright p.1 p.2 := by
  rw [mem_seamsOf_iff]
  constructor
  · rintro ⟨p,hp,u,hadjacent,he⟩
    obtain ⟨rfl,rfl,rfl⟩ := (straight_inj hadjacent.lt).mp he.symm
    exact ⟨p,hp,hadjacent,rfl,rfl⟩
  · rintro ⟨p,hp,hadjacent,rfl,rfl⟩
    exact ⟨p,hp,upright,hadjacent,rfl⟩

theorem length_of_mem_seamsOf (h : straight upright line span ∈ seamsOf rects) :
    tolerance < span.2 - span.1 := by
  obtain ⟨p,_,hadjacent,_,rfl⟩ := straight_mem_seamsOf_iff.mp h
  exact hadjacent.share

theorem mem_cuts_iff : span ∈ (seamsOf rects).filterMap side.cut? ↔
    ∃ line, straight side.upright line span ∈ seamsOf rects ∧ |line - side.line| ≤ tolerance := by
  rw [List.mem_filterMap]
  constructor
  · rintro ⟨seam,hseam,hcut⟩
    obtain ⟨p,_,u,hadjacent,rfl⟩ := mem_seamsOf_iff.mp hseam
    rw [← seamOn_eq_straight hadjacent.lt.le,cut?_seamOn hadjacent.share,
      Option.ite_none_right_eq_some,Option.some.injEq] at hcut
    obtain ⟨⟨rfl,hclose⟩,rfl⟩ := hcut
    exact ⟨_,hseam,close_iff.mp hclose⟩
  · rintro ⟨line,hseam,hclose⟩
    have hlong := length_of_mem_seamsOf hseam
    have hle : span.1 ≤ span.2 := by linarith [tolerance_pos]
    refine ⟨_,hseam,?_⟩
    rw [← seamOn_eq_straight hle,cut?_seamOn hlong,if_pos ⟨rfl,close_iff.mpr hclose⟩]

/-! ### The pieces of a side -/

/-- What is drawn of a side. -/
structure SideDrawn (rects : List (Rect Rat)) (side : Side Rat) : Prop where
  /-- Pieces of the side in order, apart from each other, and none too short to be seen. -/
  pieces : ∃ pieces : List (Rat × Rat),
    (Composite.ofRects rects).sideOutline side = pieces.map (straight side.upright side.line) ∧
      (∀ i ∈ pieces, side.lo ≤ i.1 ∧ i.2 ≤ side.hi ∧ tolerance < i.2 - i.1) ∧
        pieces.Pairwise fun i j => i.2 < j.1
  /-- A place apart from all ends is drawn unless a seam along the side covers it. -/
  covered : ∀ p ∈ side.region, Apart (coordinate (!side.upright) p) side.lo →
    Apart (coordinate (!side.upright) p) side.hi →
      (∀ line span, straight side.upright line span ∈ seamsOf rects →
        ClearOf (coordinate (!side.upright) p) span) →
      ((∃ segment ∈ (Composite.ofRects rects).sideOutline side, p ∈ segment.region) ↔
        ¬ ∃ line span, straight side.upright line span ∈ seamsOf rects ∧
          |line - side.line| ≤ tolerance ∧ Within (coordinate (!side.upright) p) span)

theorem sideDrawn (rects : List (Rect Rat)) (side : Side Rat) : SideDrawn rects side where
  pieces := by
    have hcuts : ∀ c ∈ (seamsOf rects).filterMap side.cut?, c.1 < c.2 := by
      intro c hc
      obtain ⟨line,hseam,_⟩ := mem_cuts_iff.mp hc
      linarith [length_of_mem_seamsOf hseam,tolerance_pos]
    refine ⟨subtract side.lo side.hi ((seamsOf rects).filterMap side.cut?),?_,
      fun i hi => bounds_of_mem_subtract hi,pairwise_subtract hcuts⟩
    refine List.map_congr_left fun i hi => ?_
    exact seamOn_eq_straight (lt_of_mem_remaining hi).le
  covered p hp hlo hhi hclear := by
    have hleft : (∃ i ∈ subtract side.lo side.hi ((seamsOf rects).filterMap side.cut?),
        Within (coordinate (!side.upright) p) i) ↔
          Within (coordinate (!side.upright) p) (side.lo,side.hi) ∧
            ∀ c ∈ (seamsOf rects).filterMap side.cut?,
              ¬ Within (coordinate (!side.upright) p) c := by
      refine exists_subtract_iff hlo hhi fun c hc => ?_
      obtain ⟨line,hseam,_⟩ := mem_cuts_iff.mp hc
      exact hclear line c hseam
    have hdrawn : (∃ segment ∈ (Composite.ofRects rects).sideOutline side, p ∈ segment.region) ↔
        ∀ c ∈ (seamsOf rects).filterMap side.cut?, ¬ Within (coordinate (!side.upright) p) c :=
      exists_segment_iff.trans ((and_iff_right hp.1).trans (hleft.trans (and_iff_right hp.2)))
    rw [hdrawn]
    constructor
    · rintro hnone ⟨line,span,hseam,hclose,hin⟩
      exact hnone span (mem_cuts_iff.mpr ⟨line,hseam,hclose⟩) hin
    · intro hnone span hspan hin
      obtain ⟨line,hseam,hclose⟩ := mem_cuts_iff.mp hspan
      exact hnone ⟨line,span,hseam,hclose,hin⟩

/-- Nothing of a stretch is drawn on a side, but for the tolerance at its ends. -/
def LeftOut (rects : List (Rect Rat)) (side : Side Rat) (span : Rat × Rat) : Prop :=
  ∀ p, span.1 + tolerance < coordinate (!side.upright) p →
    coordinate (!side.upright) p + tolerance < span.2 →
      ¬ ∃ segment ∈ (Composite.ofRects rects).sideOutline side, p ∈ segment.region

/-- Nothing is drawn of a seam along the side. -/
theorem leftOut_of_seam (hseam : straight side.upright line span ∈ seamsOf rects)
    (hclose : |line - side.line| ≤ tolerance) : LeftOut rects side span := by
  intro p hstart hstop hdrawn
  obtain ⟨_,i,hi,hin⟩ := exists_segment_iff.mp hdrawn
  exact not_within_of_mem_subtract (mem_cuts_iff.mpr ⟨line,hseam,hclose⟩) hstart hstop hi hin

/-! ### The sides of rectangles -/

/-- The side of a rectangle on a wall. -/
def Rect.edge (r : Rect Rat) : Wall → Side Rat
  | .top => ⟨false,r.y,r.x,r.x + r.width⟩
  | .bottom => ⟨false,r.y + r.height,r.x,r.x + r.width⟩
  | .left => ⟨true,r.x,r.y,r.y + r.height⟩
  | .right => ⟨true,r.x + r.width,r.y,r.y + r.height⟩

theorem Rect.sides_eq (r : Rect Rat) : r.sides = [Wall.top,.bottom,.left,.right].map r.edge := rfl

/-- The wall that faces a wall from the other side of their line. -/
def Wall.opposite : Wall → Wall
  | .top => .bottom
  | .bottom => .top
  | .left => .right
  | .right => .left

theorem upright_edge_opposite (a b : Rect Rat) (wall : Wall) :
    (b.edge wall.opposite).upright = (a.edge wall).upright := by
  cases wall <;> rfl

/-- The stretch that two sides share. -/
def Side.shared (s t : Side Rat) : Rat × Rat := (max s.lo t.lo,min s.hi t.hi)

theorem Side.shared_comm (s t : Side Rat) : s.shared t = t.shared s := by
  rw [shared,shared,max_comm,min_comm]

/-- What is drawn of the sides of some rectangles. -/
structure SidesDrawn (rects : List (Rect Rat)) : Prop where
  /-- The outline is drawn side by side. -/
  outline : (Composite.ofRects rects).outline = rects.flatMap fun r =>
    [Wall.top,.bottom,.left,.right].flatMap fun wall =>
      (Composite.ofRects rects).sideOutline (r.edge wall)
  sides : ∀ r ∈ rects, ∀ wall, SideDrawn rects (r.edge wall)
  /-- Where sides of two rectangles touch from opposite walls, neither is drawn. -/
  seams : ∀ a b, (a,b) ∈ pairsOf rects ∨ (b,a) ∈ pairsOf rects → ∀ wall,
    |(a.edge wall).line - (b.edge wall.opposite).line| ≤ tolerance →
      tolerance < ((a.edge wall).shared (b.edge wall.opposite)).2 -
        ((a.edge wall).shared (b.edge wall.opposite)).1 →
      LeftOut rects (a.edge wall) ((a.edge wall).shared (b.edge wall.opposite)) ∧
        LeftOut rects (b.edge wall.opposite) ((a.edge wall).shared (b.edge wall.opposite))

section Touch

variable {a b : Rect Rat} (hsize : ∀ r ∈ rects, tolerance < r.width ∧ tolerance < r.height)
  (hpair : (a,b) ∈ pairsOf rects ∨ (b,a) ∈ pairsOf rects)

include hsize hpair

/-- Where one rectangle ends and another begins there is a seam, close to both of the sides. -/
theorem exists_seam_of_end (upright : Bool) (htouch : |a.high upright - b.low upright| ≤ tolerance)
    (hshare : tolerance < (sharedSpan upright a b).2 - (sharedSpan upright a b).1) :
    ∃ line, straight upright line (sharedSpan upright a b) ∈ seamsOf rects ∧
      |line - a.high upright| ≤ tolerance ∧ |line - b.low upright| ≤ tolerance := by
  have hadjacent : Adjacent upright a b := ⟨Or.inl htouch,hshare⟩
  rcases hpair with hpair | hpair
  · refine ⟨touchingLine upright a b,straight_mem_seamsOf_iff.mpr ⟨_,hpair,hadjacent,rfl,rfl⟩,?_⟩
    rw [touchingLine,if_pos htouch,sub_self,abs_zero]
    exact ⟨tolerance_pos.le,htouch⟩
  · refine ⟨touchingLine upright b a,straight_mem_seamsOf_iff.mpr
      ⟨_,hpair,hadjacent.symm,rfl,sharedSpan_comm upright a b⟩,?_⟩
    -- the other sides are apart, since both rectangles reach across
    have hfar : ¬ |b.high upright - a.low upright| ≤ tolerance := by
      intro hclose
      have hsub := (mem_pairsOf_iff.mp hpair).subset
      have ha := Rect.lt_high_sub_low (hsize a (hsub (by simp))) upright
      have hb := Rect.lt_high_sub_low (hsize b (hsub (by simp))) upright
      linarith [(abs_le.mp htouch).2,(abs_le.mp hclose).2]
    rw [touchingLine,if_neg hfar,sub_self,abs_zero,abs_sub_comm]
    exact ⟨htouch,tolerance_pos.le⟩

/-- Where two sides touch from opposite walls there is a seam, close to both of them. -/
theorem exists_seam_of_touch {wall : Wall}
    (htouch : |(a.edge wall).line - (b.edge wall.opposite).line| ≤ tolerance)
    (hshare : tolerance < ((a.edge wall).shared (b.edge wall.opposite)).2 -
      ((a.edge wall).shared (b.edge wall.opposite)).1) :
    ∃ line, straight (a.edge wall).upright line
        ((a.edge wall).shared (b.edge wall.opposite)) ∈ seamsOf rects ∧
      |line - (a.edge wall).line| ≤ tolerance ∧
        |line - (b.edge wall.opposite).line| ≤ tolerance := by
  cases wall with
  | right => exact exists_seam_of_end hsize hpair true htouch hshare
  | bottom => exact exists_seam_of_end hsize hpair false htouch hshare
  | left =>
    rw [abs_sub_comm] at htouch
    rw [Side.shared_comm] at hshare ⊢
    obtain ⟨line,hseam,hb,ha⟩ := exists_seam_of_end hsize hpair.symm true htouch hshare
    exact ⟨line,hseam,ha,hb⟩
  | top =>
    rw [abs_sub_comm] at htouch
    rw [Side.shared_comm] at hshare ⊢
    obtain ⟨line,hseam,hb,ha⟩ := exists_seam_of_end hsize hpair.symm false htouch hshare
    exact ⟨line,hseam,ha,hb⟩

end Touch

theorem sides_drawn (hsize : ∀ r ∈ rects, tolerance < r.width ∧ tolerance < r.height) :
    SidesDrawn rects where
  outline := by
    simp only [Composite.outline,Rect.sides_eq,List.flatMap_map]
    rfl
  sides r _ wall := sideDrawn rects (r.edge wall)
  seams a b hpair wall htouch hshare := by
    obtain ⟨line,hseam,ha,hb⟩ := exists_seam_of_touch hsize hpair htouch hshare
    refine ⟨leftOut_of_seam hseam ha,leftOut_of_seam ?_ hb⟩
    rwa [upright_edge_opposite a b wall]

/-- A rectangle with one that nearly touches it, one inside, and one across its corner. -/
def farmyard : List (Rect Rat) := [⟨0,0,4,4⟩,⟨4 + 1/2000000000,1,2,2⟩,⟨1,1,1,1⟩,⟨3,3,2,2⟩]

theorem sides_drawn_farmyard :
    (Composite.ofRects farmyard).sideOutline (Rect.edge ⟨0,0,4,4⟩ .right) =
      [⟨⟨4,0⟩,⟨4,1⟩⟩,⟨⟨4,3⟩,⟨4,4⟩⟩] ∧
    (∀ r ∈ farmyard, tolerance < r.width ∧ tolerance < r.height) ∧ SidesDrawn farmyard :=
  ⟨by decide +kernel,by decide +kernel,sides_drawn (by decide +kernel)⟩

end Blueprint
