import Blueprint.Proofs.Geometry.Region

/-!
The rectangle that covers others. It lies between the outermost of their lines, so neither the order
nor the number of times in which they are joined makes a difference, and it lies in every rectangle
that holds all of them.
-/

namespace Blueprint

open Scalar

namespace Rect

variable {a b c : Rect Rat}

theorem ext_lines (hlow : ∀ u, a.low u = b.low u) (hhigh : ∀ u, a.high u = b.high u) : a = b := by
  have hx : a.x = b.x := hlow true
  have hy : a.y = b.y := hlow false
  have hright : a.x + a.width = b.x + b.width := hhigh true
  have hbottom : a.y + a.height = b.y + b.height := hhigh false
  rw [hx,add_right_inj] at hright
  rw [hy,add_right_inj] at hbottom
  cases a
  cases b
  exact Rect.mk.injEq .. ▸ ⟨hx,hy,hright,hbottom⟩

/-! ### Two rectangles -/

@[simp] theorem low_union (u : Bool) : (a.union b).low u = min (a.low u) (b.low u) := by
  cases u <;> simp [union,low]

@[simp] theorem high_union (u : Bool) : (a.union b).high u = max (a.high u) (b.high u) := by
  cases u <;> simp [union,high,right,bottom]

theorem union_comm (a b : Rect Rat) : a.union b = b.union a :=
  ext_lines (by simp [min_comm]) (by simp [max_comm])

theorem union_assoc (a b c : Rect Rat) : (a.union b).union c = a.union (b.union c) :=
  ext_lines (by simp [min_assoc]) (by simp [max_assoc])

theorem union_self (a : Rect Rat) : a.union a = a := ext_lines (by simp) (by simp)

/-- No side is of negative length. -/
def Spread (r : Rect Rat) : Prop := ∀ u, r.low u ≤ r.high u

theorem spread_iff {r : Rect Rat} : r.Spread ↔ 0 ≤ r.width ∧ 0 ≤ r.height := by
  rw [Spread,forall_upright_iff true]
  simp [low,high,right,bottom]

theorem Spread.union (ha : a.Spread) : (a.union b).Spread := by
  intro u
  rw [low_union,high_union]
  exact (min_le_left _ _).trans ((ha u).trans (le_max_left _ _))

/-- A rectangle with points lies in another one if its sides do. -/
theorem region_subset_iff (ha : a.Spread) :
    a.region ⊆ b.region ↔ ∀ u, b.low u ≤ a.low u ∧ a.high u ≤ b.high u := by
  have hx : a.x ≤ a.right := ha true
  have hy : a.y ≤ a.bottom := ha false
  have hne : (Set.Icc a.x a.right ×ˢ Set.Icc a.y a.bottom).Nonempty :=
    (Set.nonempty_Icc.mpr hx).prod (Set.nonempty_Icc.mpr hy)
  rw [region,region,Set.prod_subset_prod_iff' hne,Set.Icc_subset_Icc_iff hx,
    Set.Icc_subset_Icc_iff hy,forall_upright_iff true]
  rfl

/-- The union lies in what both lie in, and nowhere else. -/
theorem region_union_subset_iff (ha : a.Spread) (hb : b.Spread) :
    (a.union b).region ⊆ c.region ↔ a.region ⊆ c.region ∧ b.region ⊆ c.region := by
  rw [region_subset_iff ha.union,region_subset_iff ha,region_subset_iff hb,← forall_and]
  refine forall_congr' fun u => ?_
  rw [low_union,high_union,le_min_iff,max_le_iff,and_and_and_comm]

/-- What holds of two rectangles that are joined. -/
structure Joined (a b : Rect Rat) : Prop where
  comm : a.union b = b.union a
  assoc : ∀ c : Rect Rat, (a.union b).union c = a.union (b.union c)
  self : a.union a = a
  spread : (a.union b).Spread
  around : a.region ⊆ (a.union b).region ∧ b.region ⊆ (a.union b).region
  /-- Whatever holds both holds the union. -/
  least : ∀ c : Rect Rat, a.region ⊆ c.region → b.region ⊆ c.region → (a.union b).region ⊆ c.region

theorem Spread.joined (ha : a.Spread) (hb : b.Spread) : a.Joined b where
  comm := union_comm a b
  assoc := union_assoc a b
  self := union_self a
  spread := ha.union
  around := (region_union_subset_iff ha hb).mp subset_rfl
  least _ hac hbc := (region_union_subset_iff ha hb).mpr ⟨hac,hbc⟩

@[simp] theorem low_inflate (r : Rect Rat) (amount : Rat) (u : Bool) :
    (r.inflate amount).low u = r.low u - amount := by
  cases u <;> rfl

@[simp] theorem high_inflate (r : Rect Rat) (amount : Rat) (u : Bool) :
    (r.inflate amount).high u = r.high u + amount := by
  cases u <;> simp only [inflate,high,right,bottom,double,whole_rat,Bool.false_eq_true,if_true,
    if_false] <;> push_cast <;> ring

end Rect

/-! ### Many rectangles -/

/-- The sides of a rectangle lie on the outermost lines of some rectangles. -/
structure Outermost (rects : List (Rect Rat)) (cover : Rect Rat) : Prop where
  /-- The left side is as far left as any, the top side as far up as any. -/
  low : ∀ u, IsLeast {line | ∃ r ∈ rects, r.low u = line} (cover.low u)
  high : ∀ u, IsGreatest {line | ∃ r ∈ rects, r.high u = line} (cover.high u)

namespace Outermost

variable {rects rects' : List (Rect Rat)} {cover cover' : Rect Rat}

theorem singleton (r : Rect Rat) : Outermost [r] r where
  low u := by simp [isLeast_singleton]
  high u := by simp [isGreatest_singleton]

/-- One more rectangle is joined. -/
theorem concat (h : Outermost rects cover) (r : Rect Rat) :
    Outermost (rects ++ [r]) (cover.union r) where
  low u := by
    have hlines : {line | ∃ s ∈ rects ++ [r], s.low u = line} =
        {line | ∃ s ∈ rects, s.low u = line} ∪ {r.low u} := by
      ext line
      simp [or_and_right,exists_or,or_comm,eq_comm]
    rw [hlines,Rect.low_union]
    exact (h.low u).union isLeast_singleton
  high u := by
    have hlines : {line | ∃ s ∈ rects ++ [r], s.high u = line} =
        {line | ∃ s ∈ rects, s.high u = line} ∪ {r.high u} := by
      ext line
      simp [or_and_right,exists_or,or_comm,eq_comm]
    rw [hlines,Rect.high_union]
    exact (h.high u).union isGreatest_singleton

/-- Joining the rest in turn keeps what is covered up to now. -/
theorem foldl_union (h : Outermost rects cover) (rest : List (Rect Rat)) :
    Outermost (rects ++ rest) (rest.foldl Rect.union cover) := by
  induction rest generalizing rects cover with
  | nil => simpa using h
  | cons r rest ih => simpa using ih (h.concat r)

/-- The outermost lines are those of the rectangles, in whatever order they are listed. -/
theorem congr (h : Outermost rects cover) (hmem : ∀ r, r ∈ rects ↔ r ∈ rects') :
    Outermost rects' cover where
  low u := by simpa only [hmem] using h.low u
  high u := by simpa only [hmem] using h.high u

theorem unique (h : Outermost rects cover) (h' : Outermost rects cover') : cover = cover' :=
  Rect.ext_lines (fun u => (h.low u).unique (h'.low u)) fun u => (h.high u).unique (h'.high u)

theorem ne_nil (h : Outermost rects cover) : rects ≠ [] := by
  obtain ⟨r,hr,_⟩ := (h.low true).1
  exact List.ne_nil_of_mem hr

theorem lines (h : Outermost rects cover) {r : Rect Rat} (hr : r ∈ rects) (u : Bool) :
    cover.low u ≤ r.low u ∧ r.high u ≤ cover.high u :=
  ⟨(h.low u).2 ⟨r,hr,rfl⟩,(h.high u).2 ⟨r,hr,rfl⟩⟩

/-- What is around a rectangle that has points has points. -/
theorem spread (h : Outermost rects cover) {r : Rect Rat} (hr : r ∈ rects) (hspread : r.Spread) :
    cover.Spread := fun u => (h.lines hr u).1.trans ((hspread u).trans (h.lines hr u).2)

end Outermost

/-- What covers a list of rectangles lies on their outermost lines. -/
theorem outermost_of_cover? {rects : List (Rect Rat)} {cover : Rect Rat}
    (h : Rect.cover? rects = some cover) : Outermost rects cover := by
  cases rects with
  | nil => cases h
  | cons r rest =>
    obtain rfl := Option.some.inj h
    exact (Outermost.singleton r).foldl_union rest

theorem exists_cover? {rects : List (Rect Rat)} (h : rects ≠ []) :
    ∃ cover, Rect.cover? rects = some cover ∧ Outermost rects cover := by
  obtain ⟨r,rest,rfl⟩ := List.exists_cons_of_ne_nil h
  exact ⟨_,rfl,outermost_of_cover? rfl⟩

theorem cover?_congr {rects rects' : List (Rect Rat)} (hmem : ∀ r, r ∈ rects ↔ r ∈ rects') :
    Rect.cover? rects = Rect.cover? rects' := by
  by_cases hnil : rects' = []
  · have hnone : rects = [] := List.eq_nil_iff_forall_not_mem.mpr fun r hr => by
      simpa [hnil] using (hmem r).mp hr
    rw [hnone,hnil]
  · obtain ⟨cover',hcover',houter'⟩ := exists_cover? hnil
    have hne : rects ≠ [] := by
      rintro rfl
      exact hnil (List.eq_nil_iff_forall_not_mem.mpr fun r hr => by simpa using (hmem r).mpr hr)
    obtain ⟨cover,hcover,houter⟩ := exists_cover? hne
    rw [hcover,hcover',(houter.congr hmem).unique houter']

end Blueprint
