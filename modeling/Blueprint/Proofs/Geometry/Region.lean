import Blueprint.Proofs.Geometry.Cuts
import Mathlib.Analysis.Convex.Segment
import Mathlib.Analysis.Normed.Field.Lemmas

/-!
Rectangles, sides and segments as sets of points. What holds of upright sides holds of level ones
with the coordinates exchanged, so coordinates are named by the sides that run across them: the
upright sides lie at an x coordinate and run along y, the level sides the other way round.
-/

namespace Blueprint

/-- The coordinate of a point that tells on which upright, or which level, line it lies. -/
def coordinate (upright : Bool) (p : Rat × Rat) : Rat := if upright then p.1 else p.2

namespace Rect

/-- The line of the left side, or of the top side. -/
def low (upright : Bool) (r : Rect Rat) : Rat := if upright then r.x else r.y

/-- The line of the right side, or of the bottom side. -/
def high (upright : Bool) (r : Rect Rat) : Rat := if upright then r.right else r.bottom

/-- The points of a rectangle, its sides included. -/
def region (r : Rect Rat) : Set (Rat × Rat) := Set.Icc r.x r.right ×ˢ Set.Icc r.y r.bottom

end Rect

/-- The points of a side. -/
def Side.region (s : Side Rat) : Set (Rat × Rat) :=
  {p | coordinate s.upright p = s.line ∧ Within (coordinate (!s.upright) p) (s.lo,s.hi)}

/-- The points of a segment. -/
def Segment.region (s : Segment Rat) : Set (Rat × Rat) :=
  segment Rat (s.start.x,s.start.y) (s.stop.x,s.stop.y)

/-! ### Coordinates -/

/-- The point on a line, at a place along it. -/
def onLine (upright : Bool) (line along : Rat) : Rat × Rat :=
  if upright then (line,along) else (along,line)

@[simp] theorem coordinate_onLine (upright : Bool) (line along : Rat) :
    coordinate upright (onLine upright line along) = line := by
  cases upright <;> rfl

@[simp] theorem coordinate_not_onLine (upright : Bool) (line along : Rat) :
    coordinate (!upright) (onLine upright line along) = along := by
  cases upright <;> rfl

theorem forall_upright_iff (upright : Bool) {P : Bool → Prop} :
    (∀ u, P u) ↔ P upright ∧ P (!upright) := by
  cases upright <;> simp [and_comm]

namespace Rect

theorem mem_region_iff {r : Rect Rat} {p : Rat × Rat} :
    p ∈ r.region ↔ ∀ u, Within (coordinate u p) (r.low u,r.high u) := by
  rw [forall_upright_iff true]
  exact Iff.rfl

theorem mem_interior_region_iff {r : Rect Rat} {p : Rat × Rat} :
    p ∈ interior r.region ↔ ∀ u, r.low u < coordinate u p ∧ coordinate u p < r.high u := by
  rw [region,interior_prod_eq,interior_Icc,interior_Icc,forall_upright_iff true]
  exact Iff.rfl

theorem mem_sides_iff {r : Rect Rat} {s : Side Rat} : s ∈ r.sides ↔
    (s.line = r.low s.upright ∨ s.line = r.high s.upright) ∧
      s.lo = r.low (!s.upright) ∧ s.hi = r.high (!s.upright) := by
  obtain ⟨upright,line,lo,hi⟩ := s
  cases upright <;> simp [sides,low,high] <;> tauto

end Rect

namespace Rect

variable {r : Rect Rat}

theorem lt_high_sub_low {t : Rat} (h : t < r.width ∧ t < r.height) (upright : Bool) :
    t < r.high upright - r.low upright := by
  cases upright with
  | true => exact h.1.trans_eq (add_sub_cancel_left r.x r.width).symm
  | false => exact h.2.trans_eq (add_sub_cancel_left r.y r.height).symm

theorem low_lt_high (h : 0 < r.width ∧ 0 < r.height) (upright : Bool) :
    r.low upright < r.high upright := sub_pos.mp (lt_high_sub_low h upright)

end Rect

/-- A stretch of a side holds the points of its line that lie between its ends. -/
theorem mem_region_segment {s : Side Rat} {i : Rat × Rat} (hle : i.1 ≤ i.2) {p : Rat × Rat} :
    p ∈ (s.segment i).region ↔
      coordinate s.upright p = s.line ∧ Within (coordinate (!s.upright) p) i := by
  obtain ⟨upright,line,lo,hi⟩ := s
  cases upright with
  | true =>
    have hmem : p ∈ segment Rat (line,i.1) (line,i.2) ↔ p.1 = line ∧ Within p.2 i := by
      rw [← Prod.image_mk_segment_right,segment_eq_Icc hle]
      constructor
      · rintro ⟨t,ht,rfl⟩
        exact ⟨rfl,ht⟩
      · rintro ⟨rfl,ht⟩
        exact ⟨p.2,ht,rfl⟩
    simpa [Segment.region,Side.segment,Segment.vertical,coordinate,hle] using hmem
  | false =>
    have hmem : p ∈ segment Rat (i.1,line) (i.2,line) ↔ p.2 = line ∧ Within p.1 i := by
      rw [← Prod.image_mk_segment_left,segment_eq_Icc hle]
      constructor
      · rintro ⟨t,ht,rfl⟩
        exact ⟨rfl,ht⟩
      · rintro ⟨rfl,ht⟩
        exact ⟨p.1,ht,rfl⟩
    simpa [Segment.region,Side.segment,Segment.horizontal,coordinate,hle] using hmem

/-! ### Interiors -/

/-- A point is inside a set if some box around it is. -/
theorem mem_interior_iff_box {s : Set (Rat × Rat)} {p : Rat × Rat} :
    p ∈ interior s ↔ ∃ lo hi : Bool → Rat,
      (∀ u, lo u < coordinate u p ∧ coordinate u p < hi u) ∧
        ∀ q, (∀ u, lo u < coordinate u q ∧ coordinate u q < hi u) → q ∈ s := by
  constructor
  · intro h
    obtain ⟨s₁,h₁,s₂,h₂,hsub⟩ := mem_nhds_prod_iff.mp (mem_interior_iff_mem_nhds.mp h)
    obtain ⟨lo₁,hi₁,hp₁,hsub₁⟩ := mem_nhds_iff_exists_Ioo_subset.mp h₁
    obtain ⟨lo₂,hi₂,hp₂,hsub₂⟩ := mem_nhds_iff_exists_Ioo_subset.mp h₂
    refine ⟨fun u => if u then lo₁ else lo₂,fun u => if u then hi₁ else hi₂,?_,?_⟩
    · rw [forall_upright_iff true]
      exact ⟨hp₁,hp₂⟩
    · intro q hq
      rw [forall_upright_iff true] at hq
      exact hsub ⟨hsub₁ hq.1,hsub₂ hq.2⟩
  · rintro ⟨lo,hi,hp,hbox⟩
    have hopen : IsOpen (Set.Ioo (lo true) (hi true) ×ˢ Set.Ioo (lo false) (hi false)) :=
      isOpen_Ioo.prod isOpen_Ioo
    refine mem_interior.mpr ⟨_,?_,hopen,?_⟩
    · intro q hq
      exact hbox q ((forall_upright_iff true).mpr hq)
    · exact (forall_upright_iff true).mp hp

end Blueprint
