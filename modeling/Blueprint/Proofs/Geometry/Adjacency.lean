import Blueprint.Proofs.Geometry.Seams
import Mathlib.Data.List.Sym

/-!
The rectangles that have a seam between them. Each pair has one seam at most, and in one direction
only; rectangles that overlap have none. Where sides that touch coincide, it does not matter in which
order the rectangles are listed.
-/

namespace Blueprint

open Scalar

/-! ### Pairs of a list -/

section Pairs
variable {β γ : Type}

/-- The pairs of a list, each position with every later one, in lexicographic order. -/
def pairsOf (l : List β) : List (β × β) :=
  (List.finRange l.length).flatMap fun i =>
    ((List.finRange l.length).filter (i < ·)).map fun j => (l[i],l[j])

@[simp] theorem pairsOf_nil : pairsOf ([] : List β) = [] := rfl

theorem pairsOf_cons (a : β) (l : List β) : pairsOf (a :: l) = l.map (a,·) ++ pairsOf l := by
  have hall : (List.finRange (l.length + 1)).filter (0 < ·) =
      (List.finRange l.length).map Fin.succ := by
    rw [List.finRange_succ,List.filter_cons_of_neg (by simp),List.filter_map,
      List.filter_eq_self.mpr (by simp)]
  have hlater (i : Fin l.length) : (List.finRange (l.length + 1)).filter (i.succ < ·) =
      ((List.finRange l.length).filter (i < ·)).map Fin.succ := by
    rw [List.finRange_succ,List.filter_cons_of_neg (by simp),List.filter_map]
    simp [Function.comp_def]
  have hfirst : (List.finRange l.length).map (fun j => (a,l[j])) = l.map (a,·) := by
    conv_rhs => rw [← List.map_getElem_finRange l]
    rw [List.map_map]
    rfl
  unfold pairsOf
  simp only [List.length_cons]
  rw [List.finRange_succ,List.flatMap_cons,List.flatMap_map,← List.finRange_succ,hall,← hfirst]
  simp only [hlater,List.map_map]
  rfl

/-- The pairs of a list are its sublists of two. -/
theorem mem_pairsOf_iff {l : List β} {a b : β} : (a,b) ∈ pairsOf l ↔ [a,b].Sublist l := by
  induction l with
  | nil => simp
  | cons c l ih =>
    rw [pairsOf_cons,List.mem_append,ih,List.cons_sublist_cons']
    simp only [List.mem_map,Prod.mk.injEq,List.singleton_sublist]
    constructor
    · rintro (⟨d,hd,rfl,rfl⟩ | h)
      · exact Or.inr ⟨rfl,hd⟩
      · exact Or.inl h
    · rintro (h | ⟨rfl,hb⟩)
      · exact Or.inr h
      · exact Or.inl ⟨b,hb,rfl,rfl⟩

/-- Items with keys of their own make pairs with keys of their own, in whatever order they are. -/
theorem nodup_keys_pairsOf {key : β → γ} {l : List β} (h : (l.map key).Nodup) :
    ((pairsOf l).map fun p => s(key p.1,key p.2)).Nodup := by
  refine h.sym2.sublist ?_
  clear h
  induction l with
  | nil => exact List.Sublist.slnil
  | cons a l ih =>
    rw [pairsOf_cons,List.map_append,List.map_map,List.map_cons,List.sym2,List.map_cons,
      List.map_map]
    exact (List.sublist_cons_self _ _).append ih

/-- What is collected from pairs does not depend on the order of the list, if it does not depend on
the order of the pairs. -/
theorem perm_flatMap_pairsOf {f : β → β → List γ} {l l' : List β} (h : l.Perm l')
    (hsymm : l.Pairwise fun a b => f a b = f b a) :
    ((pairsOf l).flatMap fun p => f p.1 p.2).Perm ((pairsOf l').flatMap fun p => f p.1 p.2) := by
  induction h with
  | nil => rfl
  | cons a h ih =>
    rw [pairsOf_cons,pairsOf_cons,List.flatMap_append,List.flatMap_append,List.flatMap_map,
      List.flatMap_map]
    exact (h.flatMap_right _).append (ih (List.pairwise_cons.mp hsymm).2)
  | swap a b l =>
    have hab : f b a = f a b := (List.pairwise_cons.mp hsymm).1 a List.mem_cons_self
    simp only [pairsOf_cons,List.map_cons,List.cons_append,List.flatMap_cons,List.flatMap_append,
      hab]
    exact (List.perm_append_comm_assoc _ _ _).append_left _
  | trans h h' ih ih' =>
    refine (ih hsymm).trans (ih' ?_)
    exact (h.pairwise_iff fun hab => hab.symm).mp hsymm
end Pairs

/-! ### Pairs side by side -/

/-- The stretch that two rectangles share along the lines of a direction. -/
def sharedSpan (upright : Bool) (a b : Rect Rat) : Rat × Rat :=
  (max (a.low !upright) (b.low !upright),min (a.high !upright) (b.high !upright))

/-- A side of one rectangle is close to the opposite side of the other, and a stretch of these sides
is shared. -/
structure Adjacent (upright : Bool) (a b : Rect Rat) : Prop where
  touch : |a.high upright - b.low upright| ≤ tolerance ∨
    |b.high upright - a.low upright| ≤ tolerance
  share : tolerance < (sharedSpan upright a b).2 - (sharedSpan upright a b).1

theorem adjacent_iff {upright : Bool} {a b : Rect Rat} : Adjacent upright a b ↔
    (|a.high upright - b.low upright| ≤ tolerance ∨
        |b.high upright - a.low upright| ≤ tolerance) ∧
      tolerance < (sharedSpan upright a b).2 - (sharedSpan upright a b).1 :=
  ⟨fun h => ⟨h.touch,h.share⟩,fun h => ⟨h.1,h.2⟩⟩

instance (upright : Bool) (a b : Rect Rat) : Decidable (Adjacent upright a b) :=
  decidable_of_iff _ adjacent_iff.symm

/-- The side of the first rectangle that touches the second one. -/
def touchingLine (upright : Bool) (a b : Rect Rat) : Rat :=
  if |a.high upright - b.low upright| ≤ tolerance then a.high upright else a.low upright

/-- The segment from place to place along a line. -/
def straight (upright : Bool) (line : Rat) (span : Rat × Rat) : Segment Rat :=
  if upright then ⟨⟨line,span.1⟩,⟨line,span.2⟩⟩ else ⟨⟨span.1,line⟩,⟨span.2,line⟩⟩

/-- The seam between two rectangles: it is upright where they are side by side, level where one is
on top of the other, and covers what they share. -/
def seamBetween? (a b : Rect Rat) : Option (Segment Rat) :=
  if Adjacent true a b then some (straight true (touchingLine true a b) (sharedSpan true a b))
  else if Adjacent false a b then
    some (straight false (touchingLine false a b) (sharedSpan false a b))
  else none

variable {upright : Bool} {a b : Rect Rat} {rects : List (Rect Rat)}

theorem seamOn_eq_straight {line : Rat} {span : Rat × Rat} (h : span.1 ≤ span.2) :
    seamOn upright line span = straight upright line span := by
  cases upright <;>
    simp [seamOn,straight,Side.segment,Segment.vertical,Segment.horizontal,h]

theorem seam?_eq (upright : Bool) (a b : Rect Rat) : seam? upright a b =
    if Adjacent upright a b then
      some (straight upright (touchingLine upright a b) (sharedSpan upright a b))
    else none := by
  have hspan : overlap? (a.low !upright) (a.high !upright) (b.low !upright) (b.high !upright) =
      if tolerance < (sharedSpan upright a b).2 - (sharedSpan upright a b).1 then
        some (sharedSpan upright a b) else none := by
    refine Option.ext fun span => ?_
    rw [overlap?_eq_some_iff,Option.ite_none_right_eq_some,Option.some.injEq]
    constructor
    · rintro ⟨rfl,hshare⟩
      exact ⟨hshare,rfl⟩
    · rintro ⟨hshare,rfl⟩
      exact ⟨rfl,hshare⟩
  have hline : touching? (a.low upright) (a.high upright) (b.low upright) (b.high upright) =
      if |a.high upright - b.low upright| ≤ tolerance ∨
          |b.high upright - a.low upright| ≤ tolerance then
        some (touchingLine upright a b) else none := by
    simp only [touching?,close_iff,touchingLine]
    split
    · rename_i htouch
      rw [if_pos (Or.inl htouch)]
    · rename_i hfar
      simp only [hfar,false_or]
  rw [seam?,hline,hspan]
  by_cases htouch : |a.high upright - b.low upright| ≤ tolerance ∨
      |b.high upright - a.low upright| ≤ tolerance
  · by_cases hshare : tolerance < (sharedSpan upright a b).2 - (sharedSpan upright a b).1
    · have hle : (sharedSpan upright a b).1 ≤ (sharedSpan upright a b).2 := by
        linarith [tolerance_pos]
      simp [htouch,hshare,adjacent_iff,seamOn_eq_straight hle]
    · simp [hshare,adjacent_iff]
  · simp [htouch,adjacent_iff]

theorem Adjacent.lt (h : Adjacent upright a b) :
    (sharedSpan upright a b).1 < (sharedSpan upright a b).2 := by
  linarith [h.share,tolerance_pos]

/-- Rectangles that touch side by side share no more than the tolerance across the line. -/
theorem Adjacent.share_le (h : Adjacent upright a b) :
    min (a.high upright) (b.high upright) - max (a.low upright) (b.low upright) ≤ tolerance := by
  rcases h.touch with htouch | htouch
  · have hle := (abs_le.mp htouch).2
    linarith [min_le_left (a.high upright) (b.high upright),
      le_max_right (a.low upright) (b.low upright)]
  · have hle := (abs_le.mp htouch).2
    linarith [min_le_right (a.high upright) (b.high upright),
      le_max_left (a.low upright) (b.low upright)]

theorem Adjacent.not_across (h : Adjacent upright a b) : ¬ Adjacent (!upright) a b := by
  intro hacross
  have hshare := hacross.share
  simp only [sharedSpan,Bool.not_not] at hshare
  linarith [h.share_le]

theorem Rect.intersects_iff {a b : Rect Rat} : a.intersects b = true ↔
    ∀ u, a.low u < b.high u - tolerance ∧ b.low u + tolerance < a.high u := by
  rw [forall_upright_iff true,intersects]
  simp only [Bool.and_eq_true,decide_eq_true_eq,and_assoc]
  rfl

/-- Rectangles that overlap are too far into each other to touch. -/
theorem not_adjacent_of_intersects (h : a.intersects b = true) (upright : Bool) :
    ¬ Adjacent upright a b := by
  intro hadjacent
  obtain ⟨hab,hba⟩ := Rect.intersects_iff.mp h upright
  rcases hadjacent.touch with htouch | htouch
  · linarith [(abs_le.mp htouch).2]
  · linarith [(abs_le.mp htouch).2]

theorem pairSeams_eq_toList (a b : Rect Rat) : pairSeams a b = (seamBetween? a b).toList := by
  rw [pairSeams_eq,seam?_eq,seam?_eq,seamBetween?]
  by_cases hupright : Adjacent true a b
  · have hlevel : ¬ Adjacent false a b := hupright.not_across
    simp [hupright,hlevel]
  · simp [hupright]

/-! ### The seams of all pairs -/

theorem seamsOf_eq_flatMap (rects : List (Rect Rat)) :
    seamsOf rects = (pairsOf rects).flatMap fun p => pairSeams p.1 p.2 := by
  induction rects with
  | nil => rfl
  | cons r rects ih =>
    rw [seamsOf,pairsOf_cons,List.flatMap_append,List.flatMap_map,ih]

theorem seamsOf_eq_filterMap (rects : List (Rect Rat)) :
    seamsOf rects = (pairsOf rects).filterMap fun p => seamBetween? p.1 p.2 := by
  rw [seamsOf_eq_flatMap,List.filterMap_eq_flatMap_toList]
  exact List.flatMap_congr fun p _ => pairSeams_eq_toList p.1 p.2

/-! ### Seams in another order -/

/-- Sides that touch coincide. -/
def MeetExactly (a b : Rect Rat) : Prop :=
  ∀ upright, tolerance < (sharedSpan upright a b).2 - (sharedSpan upright a b).1 →
    (|a.high upright - b.low upright| ≤ tolerance → a.high upright = b.low upright) ∧
      (|b.high upright - a.low upright| ≤ tolerance → b.high upright = a.low upright)

theorem sharedSpan_comm (upright : Bool) (a b : Rect Rat) :
    sharedSpan upright a b = sharedSpan upright b a := by
  rw [sharedSpan,sharedSpan,max_comm,min_comm]

theorem Adjacent.symm (h : Adjacent upright a b) : Adjacent upright b a :=
  ⟨h.touch.symm,sharedSpan_comm upright a b ▸ h.share⟩

theorem adjacent_comm : Adjacent upright a b ↔ Adjacent upright b a :=
  ⟨Adjacent.symm,Adjacent.symm⟩

/-- Both rectangles agree on the line between them. They cannot touch on both sides, since each has
an extent across the line. -/
theorem Adjacent.touchingLine_comm (h : Adjacent upright a b) (hexact : MeetExactly a b)
    (ha : a.low upright < a.high upright) (hb : b.low upright < b.high upright) :
    touchingLine upright a b = touchingLine upright b a := by
  obtain ⟨hab,hba⟩ := hexact upright h.share
  unfold touchingLine
  by_cases hfirst : |a.high upright - b.low upright| ≤ tolerance
  · by_cases hsecond : |b.high upright - a.low upright| ≤ tolerance
    · linarith [hab hfirst,hba hsecond]
    · rw [if_pos hfirst,if_neg hsecond,hab hfirst]
  · have hsecond := h.touch.resolve_left hfirst
    rw [if_neg hfirst,if_pos hsecond,hba hsecond]

theorem seamBetween?_comm (hexact : MeetExactly a b) (ha : 0 < a.width ∧ 0 < a.height)
    (hb : 0 < b.width ∧ 0 < b.height) : seamBetween? a b = seamBetween? b a := by
  have hline (u : Bool) (h : Adjacent u a b) : touchingLine u a b = touchingLine u b a :=
    h.touchingLine_comm hexact (Rect.low_lt_high ha u) (Rect.low_lt_high hb u)
  unfold seamBetween?
  simp only [adjacent_comm (a := b),sharedSpan_comm _ b a]
  by_cases hupright : Adjacent true a b
  · simp only [hupright,if_true,hline true hupright]
  · by_cases hlevel : Adjacent false a b
    · simp only [hupright,hlevel,if_true,if_false,hline false hlevel]
    · simp only [hupright,hlevel,if_false]

/-- What seams some rectangles have. -/
structure SeamsPaired (rects : List (Rect Rat)) : Prop where
  /-- None or one of each pair, pair by pair. -/
  seams : seamsOf rects = (pairsOf rects).filterMap fun p => seamBetween? p.1 p.2
  /-- No pair touches in both directions. -/
  exclusive : ∀ a b, ¬ (Adjacent true a b ∧ Adjacent false a b)
  /-- Rectangles that overlap have no seam. -/
  overlapping : ∀ a b, a.intersects b = true → seamBetween? a b = none
  /-- The order of the rectangles is the order of the seams only, if all that touch do so exactly. -/
  reordered : (∀ r ∈ rects, 0 < r.width ∧ 0 < r.height) → rects.Pairwise MeetExactly →
    ∀ rects', rects.Perm rects' → (seamsOf rects).Perm (seamsOf rects')

/-- The seams of rectangles are those of their pairs. -/
theorem seams_paired (rects : List (Rect Rat)) : SeamsPaired rects where
  seams := seamsOf_eq_filterMap rects
  exclusive a b h := h.1.not_across h.2
  overlapping a b h := by
    simp [seamBetween?,not_adjacent_of_intersects h]
  reordered hpos hexact rects' hperm := by
    have hsymm : rects.Pairwise fun a b => pairSeams a b = pairSeams b a := by
      refine hexact.imp_of_mem fun ha hb hab => ?_
      rw [pairSeams_eq_toList,pairSeams_eq_toList,seamBetween?_comm hab (hpos _ ha) (hpos _ hb)]
    rw [seamsOf_eq_flatMap,seamsOf_eq_flatMap]
    exact perm_flatMap_pairsOf hperm hsymm

/-- A rectangle with one on its right and one below, which touch each other too, and one inside. -/
def gatehouse : List (Rect Rat) := [⟨0,0,2,2⟩,⟨2,1,2,2⟩,⟨1,2,1,1⟩,⟨1/2,1/2,1,1⟩]

theorem seams_paired_gatehouse :
    seamsOf gatehouse = [⟨⟨2,1⟩,⟨2,2⟩⟩,⟨⟨1,2⟩,⟨2,2⟩⟩,⟨⟨2,2⟩,⟨2,3⟩⟩] ∧
    (∀ r ∈ gatehouse, 0 < r.width ∧ 0 < r.height) ∧ gatehouse.Pairwise MeetExactly ∧
    SeamsPaired gatehouse ∧ (seamsOf gatehouse).Perm (seamsOf gatehouse.reverse) := by
  have hpos : ∀ r ∈ gatehouse, 0 < r.width ∧ 0 < r.height := by decide +kernel
  have hexact : gatehouse.Pairwise MeetExactly := by
    unfold MeetExactly
    decide +kernel
  exact ⟨by decide +kernel,hpos,hexact,seams_paired gatehouse,
    (seams_paired gatehouse).reordered hpos hexact _ (List.reverse_perm _).symm⟩

end Blueprint
