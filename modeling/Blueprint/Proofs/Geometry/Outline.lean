import Blueprint.Proofs.Geometry.Seams

/-!
The outline of rectangles side by side is the boundary of all of them together: a place on a side is
drawn unless it lies inside of their union. Places within the tolerance of a corner are left open.
-/

namespace Blueprint

open Scalar

variable {rects : List (Rect Rat)} {r s : Rect Rat} {side : Side Rat} {along : Rat}

/-! ### What is drawn -/

/-- The segments of a side hold the places of its line that the seams leave. -/
theorem exists_segment_iff {c : Composite Rat} {p : Rat × Rat} :
    (∃ segment ∈ c.sideOutline side, p ∈ segment.region) ↔
      coordinate side.upright p = side.line ∧
        ∃ i ∈ subtract side.lo side.hi (c.seams.filterMap side.cut?),
          Within (coordinate (!side.upright) p) i := by
  have hle (i : Rat × Rat) (hi : i ∈ subtract side.lo side.hi (c.seams.filterMap side.cut?)) :
      i.1 ≤ i.2 := (lt_of_mem_remaining hi).le
  constructor
  · rintro ⟨segment,hsegment,hp⟩
    obtain ⟨i,hi,rfl⟩ := List.mem_map.mp hsegment
    obtain ⟨hline,hin⟩ := (mem_region_segment (hle i hi)).mp hp
    exact ⟨hline,i,hi,hin⟩
  · rintro ⟨hline,i,hi,hin⟩
    exact ⟨_,List.mem_map.mpr ⟨i,hi,rfl⟩,(mem_region_segment (hle i hi)).mpr ⟨hline,hin⟩⟩

theorem line_mem_lines (hr : r ∈ rects) (hside : side ∈ r.sides) :
    side.line ∈ lines side.upright rects := by
  rcases (Rect.mem_sides_iff.mp hside).1 with hline | hline
  · exact hline ▸ low_mem_lines hr
  · exact hline ▸ high_mem_lines hr

/-- A place along a side is drawn unless rectangles meet there. -/
theorem exists_sideOutline_iff (h : Tiling rects) (hr : r ∈ rects) (hside : side ∈ r.sides)
    {p : Rat × Rat}
    (hclear : ∀ c ∈ lines (!side.upright) rects, Apart (coordinate (!side.upright) p) c) :
    (∃ segment ∈ (Composite.ofRects rects).sideOutline side, p ∈ segment.region) ↔
      p ∈ side.region ∧ ¬ ∃ a ∈ rects, ∃ b ∈ rects,
        Meets side.upright side.line (coordinate (!side.upright) p) a b := by
  obtain ⟨_,hlo,hhi⟩ := Rect.mem_sides_iff.mp hside
  have hcuts := exists_cut_iff h (line_mem_lines hr hside) hclear fun _ hs => hs
  have hleft : (∃ i ∈
      subtract side.lo side.hi ((Composite.ofRects rects).seams.filterMap side.cut?),
      Within (coordinate (!side.upright) p) i) ↔
        Within (coordinate (!side.upright) p) (side.lo,side.hi) ∧
          ∀ c ∈ (seamsOf rects).filterMap side.cut?, ¬ Within (coordinate (!side.upright) p) c :=
    exists_subtract_iff (hlo ▸ hclear _ (low_mem_lines hr)) (hhi ▸ hclear _ (high_mem_lines hr))
      fun c hc => clearOf_of_mem_cuts hclear hc
  rw [exists_segment_iff,hleft,← hcuts,← and_assoc]
  refine and_congr Iff.rfl ?_
  constructor
  · rintro hnone ⟨seam,hseam,span,hcut,hin⟩
    exact hnone span (List.mem_filterMap.mpr ⟨seam,hseam,hcut⟩) hin
  · intro hnone span hspan hin
    obtain ⟨seam,hseam,hcut⟩ := List.mem_filterMap.mp hspan
    exact hnone ⟨seam,hseam,span,hcut,hin⟩

/-- A place on a side is drawn, by whatever side, unless rectangles meet there. -/
theorem exists_outline_iff (h : Tiling rects) (hr : r ∈ rects) (hside : side ∈ r.sides)
    {p : Rat × Rat} (hp : p ∈ side.region)
    (hclear : ∀ c ∈ lines (!side.upright) rects, Apart (coordinate (!side.upright) p) c) :
    (∃ segment ∈ (Composite.ofRects rects).outline, p ∈ segment.region) ↔
      ¬ ∃ a ∈ rects, ∃ b ∈ rects,
        Meets side.upright side.line (coordinate (!side.upright) p) a b := by
  constructor
  · rintro ⟨segment,hsegment,hin⟩
    obtain ⟨r',hr',hsegment⟩ := List.mem_flatMap.mp hsegment
    obtain ⟨side',hside',hsegment⟩ := List.mem_flatMap.mp hsegment
    have hline := (exists_segment_iff.mp ⟨segment,hsegment,hin⟩).1
    have hmem := line_mem_lines hr' hside'
    by_cases hdir : side'.upright = side.upright
    · have hdrawn := (exists_sideOutline_iff h hr' hside' (hdir ▸ hclear)).mp ⟨segment,hsegment,hin⟩
      have hsame : side'.line = side.line := by rw [← hline,hdir,hp.1]
      rw [hdir,hsame] at hdrawn
      exact hdrawn.2
    · -- a side across would have its own line run through the place
      have hacross : side'.upright = !side.upright := Bool.eq_not.mpr hdir
      rw [hacross] at hline hmem
      have hself := hclear side'.line hmem
      rw [hline,Apart,sub_self,abs_zero] at hself
      exact absurd hself (not_lt.mpr tolerance_pos.le)
  · intro hnone
    obtain ⟨segment,hsegment,hin⟩ :=
      (exists_sideOutline_iff h hr hside hclear).mpr ⟨hp,hnone⟩
    exact ⟨segment,List.mem_flatMap.mpr ⟨r,hr,List.mem_flatMap.mpr ⟨side,hside,hsegment⟩⟩,hin⟩

/-! ### What lies inside -/

theorem Within.lt_and_lt {t : Rat} {i : Rat × Rat} (h : Within t i) (hclear : ClearOf t i) :
    i.1 < t ∧ t < i.2 := by
  have hlo := hclear.1.symm.add_lt_of_le h.1
  have hup := hclear.2.add_lt_of_le h.2
  constructor <;> linarith [tolerance_pos]

theorem Tiling.disjoint_of_ne (h : Tiling rects) (hr : r ∈ rects) (hs : s ∈ rects) (hne : r ≠ s) :
    Disjoint (interior r.region) (interior s.region) := by
  have hsymm : Std.Symm fun r s : Rect Rat => Disjoint (interior r.region) (interior s.region) :=
    ⟨fun _ _ hd => Disjoint.symm hd⟩
  exact h.disjoint.forall hr hs hne

section Near

variable (h : Tiling rects) (hr : r ∈ rects) (hside : side ∈ r.sides)
  (hin : Within along (side.lo,side.hi)) (hclear : ∀ c ∈ lines (!side.upright) rects, Apart along c)
  (hs : s ∈ rects) (hin' : Within along (s.low !side.upright,s.high !side.upright))

include h hr hside hin hclear hs hin'

/-- No rectangle reaches across a place on a side of another one. -/
theorem not_across (hlow : s.low side.upright < side.line) :
    ¬ side.line < s.high side.upright := by
  intro hhigh
  obtain ⟨hline,hlo,hhi⟩ := Rect.mem_sides_iff.mp hside
  rw [hlo,hhi] at hin
  have hrpos : r.low side.upright < r.high side.upright := h.low_lt_high hr
  have hne : r ≠ s := by
    rintro rfl
    rcases hline with he | he <;> linarith
  -- a coordinate across the line that both rectangles hold inside
  have hgap : max (r.low side.upright) (s.low side.upright) <
      min (r.high side.upright) (s.high side.upright) := by
    rw [max_lt_iff,lt_min_iff,lt_min_iff]
    rcases hline with he | he <;> refine ⟨⟨?_,?_⟩,?_,?_⟩ <;> linarith
  obtain ⟨m,hm,hm'⟩ := exists_between hgap
  obtain ⟨hmr,hms⟩ := max_lt_iff.mp hm
  obtain ⟨hmr',hms'⟩ := lt_min_iff.mp hm'
  have hinside (q : Rect Rat) (hq : q ∈ rects) (hlo : q.low side.upright < m)
      (hhi : m < q.high side.upright)
      (hin : Within along (q.low !side.upright,q.high !side.upright)) :
      onLine side.upright m along ∈ interior q.region := by
    rw [Rect.mem_interior_region_iff,forall_upright_iff side.upright]
    simpa [hlo,hhi] using hin.lt_and_lt (clearOf_span hclear hq)
  exact Set.disjoint_left.mp (h.disjoint_of_ne hr hs hne) (hinside r hr hmr hmr' hin)
    (hinside s hs hms hms' hin')

/-- What covers the place a little after the line begins on the line. -/
theorem begins_of_within {m : Rat} (hm : side.line < m) (hnear : m < side.line + tolerance)
    (hcover : Within m (s.low side.upright,s.high side.upright)) :
    s.low side.upright = side.line := by
  obtain ⟨hlow,hhigh⟩ := within_iff.mp hcover
  by_contra hne
  rcases (h.apart _ _ (low_mem_lines hs) _ (line_mem_lines hr hside) hne).lt_or_lt with hlt | hlt
  · have hbefore : s.low side.upright < side.line := by linarith [tolerance_pos]
    exact not_across h hr hside hin hclear hs hin' hbefore (by linarith)
  · linarith

/-- What covers the place a little before the line ends on the line. -/
theorem ends_of_within {m : Rat} (hm : m < side.line) (hnear : side.line - tolerance < m)
    (hcover : Within m (s.low side.upright,s.high side.upright)) :
    s.high side.upright = side.line := by
  obtain ⟨hlow,hhigh⟩ := within_iff.mp hcover
  by_contra hne
  rcases (h.apart _ _ (high_mem_lines hs) _ (line_mem_lines hr hside) hne).lt_or_lt with hlt | hlt
  · linarith
  · have hbefore : s.low side.upright < side.line := by linarith
    exact not_across h hr hside hin hclear hs hin' hbefore (by linarith [tolerance_pos])

end Near

/-- Where two rectangles meet, everything near is covered by one or the other. -/
theorem Meets.mem_interior {upright : Bool} {line : Rat} {a b : Rect Rat} {p : Rat × Rat}
    (h : Tiling rects) (ha : a ∈ rects) (hb : b ∈ rects) (hline : coordinate upright p = line)
    (hclear : ∀ c ∈ lines (!upright) rects, Apart (coordinate (!upright) p) c)
    (hm : Meets upright line (coordinate (!upright) p) a b) :
    p ∈ interior (⋃ r ∈ rects, r.region) := by
  obtain ⟨hend,hbegin,hina,hinb⟩ := hm
  have hapos : a.low upright < a.high upright := h.low_lt_high ha
  have hbpos : b.low upright < b.high upright := h.low_lt_high hb
  obtain ⟨hloa,hupa⟩ := hina.lt_and_lt (clearOf_span hclear ha)
  obtain ⟨hlob,hupb⟩ := hinb.lt_and_lt (clearOf_span hclear hb)
  rw [mem_interior_iff_box]
  refine ⟨fun u => if u = upright then a.low u else max (a.low u) (b.low u),
    fun u => if u = upright then b.high u else min (a.high u) (b.high u),?_,?_⟩
  · rw [forall_upright_iff upright]
    have hacross : a.low upright < coordinate upright p ∧ coordinate upright p < b.high upright :=
      ⟨by linarith,by linarith⟩
    simpa using ⟨hacross,⟨hloa,hlob⟩,hupa,hupb⟩
  · intro q hq
    rw [forall_upright_iff upright] at hq
    simp only [if_true,Bool.not_eq_self,if_false,max_lt_iff,lt_min_iff] at hq
    obtain ⟨⟨hlo,hhi⟩,⟨hla,hlb⟩,hha,hhb⟩ := hq
    rw [Set.mem_iUnion₂]
    rcases le_total (coordinate upright q) line with hle | hge
    · refine ⟨a,ha,Rect.mem_region_iff.mpr ((forall_upright_iff upright).mpr ⟨?_,?_⟩)⟩
      · exact ⟨hlo.le,hend.symm ▸ hle⟩
      · exact ⟨hla.le,hha.le⟩
    · refine ⟨b,hb,Rect.mem_region_iff.mpr ((forall_upright_iff upright).mpr ⟨?_,?_⟩)⟩
      · exact ⟨hbegin.symm ▸ hge,hhi.le⟩
      · exact ⟨hlb.le,hhb.le⟩

/-- Around a place on a side that lies inside, one rectangle ends on the line and another begins:
a little to either side of the line some rectangle covers the place, and none reaches across. -/
theorem exists_meets_of_mem_interior (h : Tiling rects) (hr : r ∈ rects) (hside : side ∈ r.sides)
    {p : Rat × Rat} (hp : p ∈ side.region)
    (hclear : ∀ c ∈ lines (!side.upright) rects, Apart (coordinate (!side.upright) p) c)
    (hinside : p ∈ interior (⋃ r ∈ rects, r.region)) :
    ∃ a ∈ rects, ∃ b ∈ rects,
      Meets side.upright side.line (coordinate (!side.upright) p) a b := by
  obtain ⟨hline,hin⟩ := hp
  obtain ⟨lo,hi,hbox,hcover⟩ := mem_interior_iff_box.mp hinside
  have hnear (m : Rat) (hlo : lo side.upright < m) (hhi : m < hi side.upright) :
      ∃ s ∈ rects, Within m (s.low side.upright,s.high side.upright) ∧
        Within (coordinate (!side.upright) p) (s.low !side.upright,s.high !side.upright) := by
    have hq := hcover (onLine side.upright m (coordinate (!side.upright) p)) (by
      rw [forall_upright_iff side.upright]
      simpa [hlo,hhi] using hbox (!side.upright))
    obtain ⟨s,hs,hmem⟩ := Set.mem_iUnion₂.mp hq
    rw [Rect.mem_region_iff,forall_upright_iff side.upright] at hmem
    simp only [coordinate_onLine,coordinate_not_onLine] at hmem
    exact ⟨s,hs,hmem⟩
  obtain ⟨hbefore,hafter⟩ := hbox side.upright
  rw [hline] at hbefore hafter
  obtain ⟨m,hm,hm'⟩ := exists_between (lt_min hafter (lt_add_of_pos_right side.line tolerance_pos))
  obtain ⟨n,hn,hn'⟩ := exists_between (max_lt hbefore (sub_lt_self side.line tolerance_pos))
  obtain ⟨hmhi,hmnear⟩ := lt_min_iff.mp hm'
  obtain ⟨hnlo,hnnear⟩ := max_lt_iff.mp hn
  obtain ⟨b,hb,hbm,hinb⟩ := hnear m (hbefore.trans hm) hmhi
  obtain ⟨a,ha,han,hina⟩ := hnear n hnlo (hn'.trans hafter)
  have hends := ends_of_within h hr hside hin hclear ha hina hn' hnnear han
  have hbegins := begins_of_within h hr hside hin hclear hb hinb hm hmnear hbm
  exact ⟨a,ha,b,hb,hends,hbegins,hina,hinb⟩

/-- The outline of rectangles side by side is the boundary of their union: a place on a side, apart
from all lines across it, is drawn exactly if it does not lie inside of the union. -/
theorem mem_outline_iff_not_mem_interior (h : Tiling rects) (hr : r ∈ rects)
    (hside : side ∈ r.sides) {p : Rat × Rat} (hp : p ∈ side.region)
    (hclear : ∀ c ∈ lines (!side.upright) rects, Apart (coordinate (!side.upright) p) c) :
    (∃ segment ∈ (Composite.ofRects rects).outline, p ∈ segment.region) ↔
      p ∉ interior (⋃ r ∈ rects, r.region) := by
  rw [exists_outline_iff h hr hside hp hclear,not_iff_not]
  constructor
  · rintro ⟨a,ha,b,hb,hm⟩
    exact hm.mem_interior h ha hb hp.1 hclear
  · exact exists_meets_of_mem_interior h hr hside hp hclear

/-- A high rectangle with two low ones on its right, that leave a gap between them. -/
def terrace : List (Rect Rat) := [⟨0,0,2,4⟩,⟨2,0,1,1⟩,⟨2,2,1,2⟩]

theorem tiling_terrace : Tiling terrace where
  positive := by decide +kernel
  disjoint := by
    have hdisjoint (r s : Rect Rat) (u : Bool) (h : r.high u ≤ s.low u) :
        Disjoint (interior r.region) (interior s.region) := by
      rw [Set.disjoint_left]
      intro q hr hs
      have hlt := (Rect.mem_interior_region_iff.mp hr u).2
      have hgt := (Rect.mem_interior_region_iff.mp hs u).1
      linarith
    refine .cons ?_ (.cons ?_ (.cons (by simp) .nil))
    · rw [List.forall_mem_cons,List.forall_mem_singleton]
      exact ⟨hdisjoint _ _ true (by decide +kernel),hdisjoint _ _ true (by decide +kernel)⟩
    · rw [List.forall_mem_singleton]
      exact hdisjoint _ _ false (by decide +kernel)
  apart := by
    unfold Apart
    decide +kernel

/-- The gap is drawn and what the rectangles share is not. -/
theorem mem_outline_iff_terrace :
    ((∃ segment ∈ (Composite.ofRects terrace).outline, ((2,3/2) : Rat × Rat) ∈ segment.region) ↔
      ((2,3/2) : Rat × Rat) ∉ interior (⋃ r ∈ terrace, r.region)) ∧
    ((∃ segment ∈ (Composite.ofRects terrace).outline, ((2,3) : Rat × Rat) ∈ segment.region) ↔
      ((2,3) : Rat × Rat) ∉ interior (⋃ r ∈ terrace, r.region)) := by
  have hr : (⟨0,0,2,4⟩ : Rect Rat) ∈ terrace := List.mem_cons_self
  have hside : (⟨true,2,0,4⟩ : Side Rat) ∈ (⟨0,0,2,4⟩ : Rect Rat).sides := by decide +kernel
  constructor
  · refine mem_outline_iff_not_mem_interior tiling_terrace hr hside ⟨rfl,?_⟩ ?_
    · exact ⟨by decide +kernel,by decide +kernel⟩
    · unfold Apart
      decide +kernel
  · refine mem_outline_iff_not_mem_interior tiling_terrace hr hside ⟨rfl,?_⟩ ?_
    · exact ⟨by decide +kernel,by decide +kernel⟩
    · unfold Apart
      decide +kernel

end Blueprint
