import Blueprint.Proofs.Geometry.Region
import Mathlib.Order.CompletePartialOrder

/-!
The seams that lie on a side. Where rectangles do not overlap and their lines are either equal or
clearly apart, a seam covers a place on a line exactly if one rectangle ends on the line there and
another one begins.
-/

namespace Blueprint

open Scalar

/-- The lines on which the upright, or the level, sides of rectangles lie. -/
def lines (upright : Bool) (rects : List (Rect Rat)) : List Rat :=
  rects.flatMap fun r => [r.low upright,r.high upright]

/-- Rectangles of positive size side by side, with lines that are equal or clearly apart. -/
structure Tiling (rects : List (Rect Rat)) : Prop where
  positive : ∀ r ∈ rects, 0 < r.width ∧ 0 < r.height
  disjoint : rects.Pairwise fun r s => Disjoint (interior r.region) (interior s.region)
  apart : ∀ upright, ∀ a ∈ lines upright rects, ∀ b ∈ lines upright rects, a ≠ b → Apart a b

variable {rects : List (Rect Rat)} {r : Rect Rat} {upright : Bool}

theorem low_mem_lines (hr : r ∈ rects) : r.low upright ∈ lines upright rects :=
  List.mem_flatMap.mpr ⟨r,hr,by simp⟩

theorem high_mem_lines (hr : r ∈ rects) : r.high upright ∈ lines upright rects :=
  List.mem_flatMap.mpr ⟨r,hr,by simp⟩

namespace Tiling

theorem low_lt_high (h : Tiling rects) (hr : r ∈ rects) : r.low upright < r.high upright :=
  Rect.low_lt_high (h.positive r hr) upright

theorem close_iff_eq (h : Tiling rects) {a b : Rat} (ha : a ∈ lines upright rects)
    (hb : b ∈ lines upright rects) : close a b = true ↔ a = b := by
  constructor
  · intro hclose
    by_contra hne
    exact absurd (close_iff.mp hclose) (not_le.mpr (h.apart upright a ha b hb hne))
  · rintro rfl
    exact close_self a

end Tiling

/-! ### One seam -/

theorem overlap?_eq_some_iff {lo₁ hi₁ lo₂ hi₂ : Rat} {span : Rat × Rat} :
    overlap? lo₁ hi₁ lo₂ hi₂ = some span ↔
      span = (max lo₁ lo₂,min hi₁ hi₂) ∧ tolerance < span.2 - span.1 := by
  simp only [overlap?,greatest_rat,least_rat,Option.ite_none_right_eq_some,Option.some.injEq]
  constructor
  · rintro ⟨hlong,rfl⟩
    exact ⟨rfl,hlong⟩
  · rintro ⟨rfl,hlong⟩
    exact ⟨hlong,rfl⟩

/-- A seam on a line. -/
def seamOn (upright : Bool) (line : Rat) (span : Rat × Rat) : Segment Rat :=
  Side.segment ⟨upright,line,span.1,span.2⟩ span

/-- The seam of a pair in one direction. -/
def seam? (upright : Bool) (a b : Rect Rat) : Option (Segment Rat) :=
  (touching? (a.low upright) (a.high upright) (b.low upright) (b.high upright)).bind fun line =>
    (overlap? (a.low !upright) (a.high !upright) (b.low !upright) (b.high !upright)).map
      (seamOn upright line)

theorem pairSeams_eq (a b : Rect Rat) :
    pairSeams a b = (seam? true a b).toList ++ (seam? false a b).toList := by
  have hupright : (do
      let x ← touching? a.x a.right b.x b.right
      let (y₁,y₂) ← overlap? a.y a.bottom b.y b.bottom
      return Segment.vertical x y₁ y₂) = seam? true a b := by
    change _ = (touching? a.x a.right b.x b.right).bind fun line =>
      (overlap? a.y a.bottom b.y b.bottom).map (seamOn true line)
    cases touching? a.x a.right b.x b.right <;> cases overlap? a.y a.bottom b.y b.bottom <;> rfl
  have hlevel : (do
      let y ← touching? a.y a.bottom b.y b.bottom
      let (x₁,x₂) ← overlap? a.x a.right b.x b.right
      return Segment.horizontal y x₁ x₂) = seam? false a b := by
    change _ = (touching? a.y a.bottom b.y b.bottom).bind fun line =>
      (overlap? a.x a.right b.x b.right).map (seamOn false line)
    cases touching? a.y a.bottom b.y b.bottom <;> cases overlap? a.x a.right b.x b.right <;> rfl
  rw [pairSeams,hupright,hlevel]

theorem mem_pairSeams_iff {a b : Rect Rat} {seam : Segment Rat} :
    seam ∈ pairSeams a b ↔ ∃ u line span,
      touching? (a.low u) (a.high u) (b.low u) (b.high u) = some line ∧
        overlap? (a.low !u) (a.high !u) (b.low !u) (b.high !u) = some span ∧
          seamOn u line span = seam := by
  simp only [pairSeams_eq,List.mem_append,Option.mem_toList,seam?,Option.bind_eq_some_iff,
    Option.map_eq_some_iff,Bool.exists_bool]
  rw [or_comm]
  simp

/-- Only a seam in the direction of a side and close to its line cuts it. -/
theorem cut?_seamOn {side : Side Rat} {u : Bool} {line : Rat} {span : Rat × Rat}
    (hlong : tolerance < span.2 - span.1) :
    side.cut? (seamOn u line span) =
      if u = side.upright ∧ close line side.line = true then some span else none := by
  have hle : span.1 ≤ span.2 := by linarith [tolerance_pos]
  have hfar : close span.1 span.2 = false := by
    rw [Bool.eq_false_iff]
    intro hclose
    have habs := close_iff.mp hclose
    rw [abs_sub_comm] at habs
    linarith [le_abs_self (span.2 - span.1)]
  obtain ⟨upright,at',lo,hi⟩ := side
  cases u <;> cases upright <;>
    simp [Side.cut?,seamOn,Side.segment,Segment.vertical,Segment.horizontal,hle,hfar,close_self]

/-! ### The cuts of a pair -/

/-- One rectangle ends on a line where another one begins, at a place along the line. -/
structure Meets (upright : Bool) (line along : Rat) (a b : Rect Rat) : Prop where
  ends : a.high upright = line
  begins : b.low upright = line
  first : Within along (a.low !upright,a.high !upright)
  second : Within along (b.low !upright,b.high !upright)

variable {a b : Rect Rat} {side : Side Rat} {line along : Rat}

theorem touching?_eq_some_iff (h : Tiling rects) (ha : a ∈ rects) (hb : b ∈ rects) :
    touching? (a.low upright) (a.high upright) (b.low upright) (b.high upright) = some line ↔
      (a.high upright = line ∧ b.low upright = line) ∨
        (b.high upright = line ∧ a.low upright = line) := by
  have hapos : a.low upright < a.high upright := h.low_lt_high ha
  have hbpos : b.low upright < b.high upright := h.low_lt_high hb
  simp only [touching?,h.close_iff_eq (high_mem_lines ha) (low_mem_lines hb),
    h.close_iff_eq (high_mem_lines hb) (low_mem_lines ha)]
  split
  · rename_i hab
    rw [Option.some.injEq]
    constructor
    · rintro rfl
      exact Or.inl ⟨rfl,hab.symm⟩
    · rintro (⟨he,_⟩ | ⟨hend,hbegin⟩)
      · exact he
      · linarith
  · rename_i hab
    have hno : ¬ (a.high upright = line ∧ b.low upright = line) := by
      rintro ⟨rfl,he⟩
      exact hab he.symm
    rw [or_iff_right hno,Option.ite_none_right_eq_some,Option.some.injEq]
    constructor
    · rintro ⟨hba,rfl⟩
      exact ⟨hba,rfl⟩
    · rintro ⟨hend,hbegin⟩
      exact ⟨hend.trans hbegin.symm,hbegin⟩

/-- Two stretches overlap at a place apart from their ends exactly if both hold it. -/
theorem exists_overlap_iff {lo₁ hi₁ lo₂ hi₂ t : Rat} (h₁ : ClearOf t (lo₁,hi₁))
    (h₂ : ClearOf t (lo₂,hi₂)) :
    (∃ span, overlap? lo₁ hi₁ lo₂ hi₂ = some span ∧ Within t span) ↔
      Within t (lo₁,hi₁) ∧ Within t (lo₂,hi₂) := by
  simp only [overlap?_eq_some_iff]
  constructor
  · rintro ⟨_,⟨rfl,_⟩,hlo,hup⟩
    obtain ⟨hlo₁,hlo₂⟩ := max_le_iff.mp hlo
    obtain ⟨hup₁,hup₂⟩ := le_min_iff.mp hup
    exact ⟨⟨hlo₁,hup₁⟩,hlo₂,hup₂⟩
  · rintro ⟨⟨hlo₁,hup₁⟩,hlo₂,hup₂⟩
    refine ⟨_,⟨rfl,?_⟩,max_le hlo₁ hlo₂,le_min hup₁ hup₂⟩
    have hmax : max lo₁ lo₂ + tolerance < t := by
      rw [← lt_sub_iff_add_lt,max_lt_iff,lt_sub_iff_add_lt,lt_sub_iff_add_lt]
      exact ⟨h₁.1.symm.add_lt_of_le hlo₁,h₂.1.symm.add_lt_of_le hlo₂⟩
    have hmin : t + tolerance < min hi₁ hi₂ :=
      lt_min (h₁.2.add_lt_of_le hup₁) (h₂.2.add_lt_of_le hup₂)
    linarith [tolerance_pos]

theorem clearOf_span (hclear : ∀ c ∈ lines upright rects, Apart along c) (hr : r ∈ rects) :
    ClearOf along (r.low upright,r.high upright) :=
  ⟨hclear _ (low_mem_lines hr),hclear _ (high_mem_lines hr)⟩

theorem line_mem_lines_of_touching? (h : Tiling rects) (ha : a ∈ rects) (hb : b ∈ rects)
    (ht : touching? (a.low upright) (a.high upright) (b.low upright) (b.high upright) = some line) :
    line ∈ lines upright rects := by
  rcases (touching?_eq_some_iff h ha hb).mp ht with ⟨rfl,_⟩ | ⟨rfl,_⟩
  · exact high_mem_lines ha
  · exact high_mem_lines hb

/-- The seams of a pair cut a side where the two meet on its line. -/
theorem exists_pair_cut_iff (h : Tiling rects) (ha : a ∈ rects) (hb : b ∈ rects)
    (hline : side.line ∈ lines side.upright rects)
    (hclear : ∀ c ∈ lines (!side.upright) rects, Apart along c) :
    (∃ seam ∈ pairSeams a b, ∃ span, side.cut? seam = some span ∧ Within along span) ↔
      Meets side.upright side.line along a b ∨ Meets side.upright side.line along b a := by
  have hoverlap := exists_overlap_iff (clearOf_span hclear ha) (clearOf_span hclear hb)
  constructor
  · rintro ⟨seam,hseam,span,hcut,hin⟩
    obtain ⟨u,line,span',htouch,hspan,rfl⟩ := mem_pairSeams_iff.mp hseam
    rw [cut?_seamOn (overlap?_eq_some_iff.mp hspan).2] at hcut
    split at hcut
    · rename_i hon
      obtain ⟨rfl,hclose⟩ := hon
      obtain rfl := Option.some.inj hcut
      have hmem := line_mem_lines_of_touching? h ha hb htouch
      rw [(h.close_iff_eq hmem hline).mp hclose] at htouch
      obtain ⟨hina,hinb⟩ := hoverlap.mp ⟨_,hspan,hin⟩
      rcases (touching?_eq_some_iff h ha hb).mp htouch with ⟨hend,hbegin⟩ | ⟨hend,hbegin⟩
      · exact Or.inl ⟨hend,hbegin,hina,hinb⟩
      · exact Or.inr ⟨hend,hbegin,hinb,hina⟩
    · cases hcut
  · intro hmeets
    have htouch : touching? (a.low side.upright) (a.high side.upright) (b.low side.upright)
        (b.high side.upright) = some side.line := by
      rw [touching?_eq_some_iff h ha hb]
      exact hmeets.imp (fun hm => ⟨hm.ends,hm.begins⟩) (fun hm => ⟨hm.ends,hm.begins⟩)
    have hboth : Within along (a.low !side.upright,a.high !side.upright) ∧
        Within along (b.low !side.upright,b.high !side.upright) := by
      rcases hmeets with hm | hm
      · exact ⟨hm.first,hm.second⟩
      · exact ⟨hm.second,hm.first⟩
    obtain ⟨span,hspan,hin⟩ := hoverlap.mpr hboth
    refine ⟨_,mem_pairSeams_iff.mpr ⟨_,_,_,htouch,hspan,rfl⟩,span,?_,hin⟩
    rw [cut?_seamOn (overlap?_eq_some_iff.mp hspan).2]
    simp [close_self]

/-! ### The cuts of all pairs -/

theorem exists_pair_of_mem_seamsOf {seam : Segment Rat} (h : seam ∈ seamsOf rects) :
    ∃ a ∈ rects, ∃ b ∈ rects, seam ∈ pairSeams a b := by
  induction rects with
  | nil => simp [seamsOf] at h
  | cons r rects ih =>
    rcases List.mem_append.mp h with h | h
    · obtain ⟨b,hb,hseam⟩ := List.mem_flatMap.mp h
      exact ⟨r,List.mem_cons_self,b,List.mem_cons_of_mem _ hb,hseam⟩
    · obtain ⟨a,ha,b,hb,hseam⟩ := ih h
      exact ⟨a,List.mem_cons_of_mem _ ha,b,List.mem_cons_of_mem _ hb,hseam⟩

/-- Every cut of a side ends on lines that run across it. -/
theorem clearOf_of_mem_cuts (hclear : ∀ c ∈ lines (!side.upright) rects, Apart along c)
    {cut : Rat × Rat} (hcut : cut ∈ (seamsOf rects).filterMap side.cut?) : ClearOf along cut := by
  obtain ⟨seam,hseam,hcut⟩ := List.mem_filterMap.mp hcut
  obtain ⟨a,ha,b,hb,hseam⟩ := exists_pair_of_mem_seamsOf hseam
  obtain ⟨u,line,span,_,hspan,rfl⟩ := mem_pairSeams_iff.mp hseam
  obtain ⟨hends,hlong⟩ := overlap?_eq_some_iff.mp hspan
  rw [cut?_seamOn hlong] at hcut
  split at hcut
  · rename_i hon
    obtain ⟨rfl,_⟩ := hon
    obtain rfl := Option.some.inj hcut
    obtain ⟨hlo,hhi⟩ := clearOf_span hclear ha
    obtain ⟨hlo',hhi'⟩ := clearOf_span hclear hb
    subst hends
    constructor
    · rcases max_choice (a.low !side.upright) (b.low !side.upright) with he | he <;>
        simpa [he]
    · rcases min_choice (a.high !side.upright) (b.high !side.upright) with he | he <;>
        simpa [he]
  · cases hcut

/-- The seams cut a side where some rectangles meet on its line. -/
theorem exists_cut_iff (h : Tiling rects) (hline : side.line ∈ lines side.upright rects)
    (hclear : ∀ c ∈ lines (!side.upright) rects, Apart along c) {members : List (Rect Rat)}
    (hmembers : ∀ r ∈ members, r ∈ rects) :
    (∃ seam ∈ seamsOf members, ∃ span, side.cut? seam = some span ∧ Within along span) ↔
      ∃ a ∈ members, ∃ b ∈ members, Meets side.upright side.line along a b := by
  induction members with
  | nil => simp [seamsOf]
  | cons a members ih =>
    obtain ⟨ha,hmembers⟩ := List.forall_mem_cons.mp hmembers
    have hself : ¬ Meets side.upright side.line along a a := by
      intro hm
      have hpos : a.low side.upright < a.high side.upright := h.low_lt_high ha
      linarith [hm.ends,hm.begins]
    have hpairs : (∃ seam ∈ members.flatMap (pairSeams a),
        ∃ span, side.cut? seam = some span ∧ Within along span) ↔ ∃ b ∈ members,
          Meets side.upright side.line along a b ∨ Meets side.upright side.line along b a := by
      constructor
      · rintro ⟨seam,hseam,hcut⟩
        obtain ⟨b,hb,hseam⟩ := List.mem_flatMap.mp hseam
        exact ⟨b,hb,(exists_pair_cut_iff h ha (hmembers b hb) hline hclear).mp ⟨seam,hseam,hcut⟩⟩
      · rintro ⟨b,hb,hmeets⟩
        obtain ⟨seam,hseam,hcut⟩ :=
          (exists_pair_cut_iff h ha (hmembers b hb) hline hclear).mpr hmeets
        exact ⟨seam,List.mem_flatMap.mpr ⟨b,hb,hseam⟩,hcut⟩
    simp only [seamsOf,List.mem_append,or_and_right,exists_or,hpairs,ih hmembers,List.mem_cons,
      exists_eq_left,hself,false_or]
    constructor
    · rintro (⟨b,hb,hab | hba⟩ | ⟨b,hb,c,hc,hbc⟩)
      · exact Or.inl ⟨b,hb,hab⟩
      · exact Or.inr ⟨b,hb,Or.inl hba⟩
      · exact Or.inr ⟨b,hb,Or.inr ⟨c,hc,hbc⟩⟩
    · rintro (⟨b,hb,hab⟩ | ⟨b,hb,hba | ⟨c,hc,hbc⟩⟩)
      · exact Or.inl ⟨b,hb,Or.inl hab⟩
      · exact Or.inl ⟨b,hb,Or.inr hba⟩
      · exact Or.inr ⟨b,hb,c,hc,hbc⟩

end Blueprint
