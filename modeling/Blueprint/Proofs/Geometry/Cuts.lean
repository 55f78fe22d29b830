import Blueprint.Geometry.Composite
import Blueprint.Proofs.Geometry.Exact
import Mathlib.Data.List.Sort

/-!
Cutting intervals. Away from all ends, what is left of an interval holds exactly the coordinates
that no cut holds; near the ends the tolerance decides.
-/

namespace Blueprint

open Scalar

/-- A coordinate farther from another one than the tolerance. -/
def Apart (s t : Rat) : Prop := tolerance < |s - t|

/-- A coordinate apart from both ends of an interval. -/
def ClearOf (t : Rat) (i : Rat × Rat) : Prop := Apart t i.1 ∧ Apart t i.2

/-- A coordinate within an interval. -/
def Within (t : Rat) (i : Rat × Rat) : Prop := i.1 ≤ t ∧ t ≤ i.2

theorem Apart.lt_or_lt {s t : Rat} (h : Apart s t) : s + tolerance < t ∨ t + tolerance < s := by
  rcases lt_abs.mp h with h | h
  · exact Or.inr (by linarith)
  · exact Or.inl (by linarith)

theorem Apart.add_lt_of_le {s t : Rat} (h : Apart s t) (hle : s ≤ t) : s + tolerance < t := by
  have hpos := tolerance_pos
  rcases h.lt_or_lt with h | h
  · exact h
  · linarith

theorem Apart.symm {s t : Rat} (h : Apart s t) : Apart t s := by
  rw [Apart,abs_sub_comm]
  exact h

theorem within_iff {t a b : Rat} : Within t (a,b) ↔ a ≤ t ∧ t ≤ b := Iff.rfl

/-- A stretch is left out only if it is too short to hold a coordinate apart from its ends. -/
theorem exists_stretch_iff {t a b : Rat} {p : Prop} [Decidable p] {rest : List (Rat × Rat)}
    (hp : a + tolerance < b → p) (ha : Apart t a) (hb : Apart t b) :
    (∃ i ∈ if p then (a,b) :: rest else rest, Within t i) ↔
      Within t (a,b) ∨ ∃ i ∈ rest, Within t i := by
  split
  · simp
  · rename_i hshort
    have hout : ¬ Within t (a,b) := by
      rintro ⟨hlo,hup⟩
      have hlo := ha.symm.add_lt_of_le hlo
      have hup := hb.add_lt_of_le hup
      exact hshort (hp (by linarith [tolerance_pos]))
    simp [hout]

theorem exists_last_iff {hi cursor t : Rat} (hcursor : Apart t cursor) (hhi : Apart t hi) :
    (∃ i ∈ if tolerance < hi - cursor then [(cursor,hi)] else [], Within t i) ↔
      Within t (cursor,hi) := by
  rw [exists_stretch_iff (fun h => by linarith) hcursor hhi]
  simp

/-- Before a cut or after it, where what comes later holds at every place before the cut. -/
theorem within_cut_iff {cursor start stop hi t : Rat} {later : Prop} (hstart : Apart t start)
    (hstop : Apart t stop) (hahead : cursor + tolerance < stop) (hend : start < hi - tolerance)
    (hlater : t < start → later) :
    Within t (cursor,start) ∨ (Within t (stop,hi) ∧ later) ↔
      Within t (cursor,hi) ∧ ¬ Within t (start,stop) ∧ later := by
  have hpos := tolerance_pos
  simp only [within_iff]
  constructor
  · rintro (⟨hlo,hup⟩ | ⟨⟨hlo,hup⟩,h⟩)
    · have hlt := hstart.add_lt_of_le hup
      have hlt : t < start := by linarith
      exact ⟨⟨hlo,by linarith⟩,fun hin => by linarith [hin.1],hlater hlt⟩
    · have hlt := hstop.symm.add_lt_of_le hlo
      exact ⟨⟨by linarith,hup⟩,fun hin => by linarith [hin.2],h⟩
  · rintro ⟨⟨hlo,hup⟩,hout,h⟩
    rcases le_total t start with hle | hle
    · exact Or.inl ⟨hlo,hle⟩
    · have hlt : stop < t := not_le.mp fun hin => hout ⟨hle,hin⟩
      exact Or.inr ⟨⟨hlt.le,hup⟩,h⟩

/-- What is left after sorted cuts. The cursor is the end of the last cut that was made, so it is
a coordinate to be apart from like the ends of the cuts to come. -/
theorem exists_remaining_iff {hi cursor t : Rat} {cuts : List (Rat × Rat)}
    (hsorted : cuts.Pairwise fun a b => a.1 ≤ b.1) (hcursor : Apart t cursor) (hhi : Apart t hi)
    (hclear : ∀ c ∈ cuts, ClearOf t c) :
    (∃ i ∈ remaining hi cursor cuts, Within t i) ↔
      Within t (cursor,hi) ∧ ∀ c ∈ cuts, ¬ Within t c := by
  induction cuts generalizing cursor with
  | nil =>
    rw [remaining,exists_last_iff hcursor hhi]
    simp
  | cons c cuts ih =>
    obtain ⟨start,stop⟩ := c
    obtain ⟨hlater,hsorted⟩ := List.pairwise_cons.mp hsorted
    obtain ⟨⟨hstart,hstop⟩,hclear⟩ := List.forall_mem_cons.mp hclear
    simp only at hlater hstart hstop
    have hafter (h : t < start) : ∀ c ∈ cuts, ¬ Within t c := by
      intro c hc hin
      have hle := hlater c hc
      linarith [hin.1]
    rw [remaining,List.forall_mem_cons,within_iff,within_iff]
    split
    · -- the cut ends where the last one did, within the tolerance
      rename_i hpast
      have hpast : stop ≤ cursor + tolerance := hpast
      have hrest := ih hsorted hcursor hclear
      rw [hrest,within_iff]
      constructor
      · rintro ⟨⟨hlo,hup⟩,hcuts⟩
        have hlt := hcursor.symm.add_lt_of_le hlo
        exact ⟨⟨hlo,hup⟩,fun hin => by linarith [hin.2],hcuts⟩
      · rintro ⟨h,_,hcuts⟩
        exact ⟨h,hcuts⟩
    · rename_i hahead
      have hahead : cursor + tolerance < stop := not_le.mp hahead
      split
      · -- this cut and all later ones begin at the end of the interval or beyond it
        rename_i hend
        have hend : hi - tolerance ≤ start := hend
        rw [exists_last_iff hcursor hhi,within_iff]
        refine (and_iff_left_of_imp fun h => ?_).symm
        have hup := hhi.add_lt_of_le h.2
        have hlt : t < start := by linarith
        exact ⟨fun hin => by linarith [hin.1],hafter hlt⟩
      · rename_i hend
        have hend : start < hi - tolerance := not_le.mp hend
        have hmax : greatest cursor stop = stop := by
          rw [greatest_rat]
          exact max_eq_right (by linarith [tolerance_pos])
        have hrest := ih hsorted hstop hclear
        rw [hmax,exists_stretch_iff (fun h => h) hcursor hstart,hrest]
        exact within_cut_iff hstart hstop hahead hend hafter

/-- What is left lies between the cursor and the end, and is longer than the tolerance. -/
theorem bounds_of_mem_remaining {hi cursor : Rat} {cuts : List (Rat × Rat)} {i : Rat × Rat}
    (h : i ∈ remaining hi cursor cuts) : cursor ≤ i.1 ∧ i.2 ≤ hi ∧ tolerance < i.2 - i.1 := by
  fun_induction remaining hi cursor cuts with
  | case1 cursor hlong =>
    obtain rfl := List.mem_singleton.mp h
    exact ⟨le_rfl,le_rfl,hlong⟩
  | case2 => cases h
  | case3 cursor start stop cuts hpast ih => exact ih h
  | case4 cursor start stop cuts hahead hend hlong =>
    obtain rfl := List.mem_singleton.mp h
    exact ⟨le_rfl,le_rfl,hlong⟩
  | case5 => cases h
  | case6 cursor start stop cuts hahead hend rest hgap ih =>
    rcases List.mem_cons.mp h with rfl | h
    · have hbefore : start < hi - tolerance := not_le.mp hend
      have hgap : cursor + tolerance < start := hgap
      exact ⟨le_rfl,by simp only; linarith [tolerance_pos],by simp only; linarith⟩
    · obtain ⟨hlo,hbounds⟩ := ih h
      rw [greatest_rat] at hlo
      exact ⟨(le_max_left _ _).trans hlo,hbounds⟩
  | case7 cursor start stop cuts hahead hend rest hgap ih =>
    obtain ⟨hlo,hbounds⟩ := ih h
    rw [greatest_rat] at hlo
    exact ⟨(le_max_left _ _).trans hlo,hbounds⟩

theorem lt_of_mem_remaining {hi cursor : Rat} {cuts : List (Rat × Rat)} {i : Rat × Rat}
    (h : i ∈ remaining hi cursor cuts) : i.1 < i.2 := by
  linarith [(bounds_of_mem_remaining h).2.2,tolerance_pos]

/-- After a cut, nothing is left before its end. -/
theorem stop_le_of_mem_remaining {hi cursor stop : Rat} {cuts : List (Rat × Rat)} {i : Rat × Rat}
    (h : i ∈ remaining hi (greatest cursor stop) cuts) : stop ≤ i.1 := by
  have hlo := (bounds_of_mem_remaining h).1
  rw [greatest_rat] at hlo
  exact (le_max_right _ _).trans hlo

/-- What is left comes in order: the next piece begins at the end of a cut at the earliest, and the
cut begins where the last piece ends. -/
theorem pairwise_remaining {hi cursor : Rat} {cuts : List (Rat × Rat)}
    (hcuts : ∀ c ∈ cuts, c.1 < c.2) :
    (remaining hi cursor cuts).Pairwise fun i j => i.2 < j.1 := by
  fun_induction remaining hi cursor cuts with
  | case1 => exact List.pairwise_singleton _ _
  | case2 => exact .nil
  | case3 cursor start stop cuts hpast ih => exact ih fun c hc => hcuts c (List.mem_cons_of_mem _ hc)
  | case4 => exact List.pairwise_singleton _ _
  | case5 => exact .nil
  | case6 cursor start stop cuts hahead hend rest hgap ih =>
    obtain ⟨hcut,hcuts⟩ := List.forall_mem_cons.mp hcuts
    refine List.pairwise_cons.mpr ⟨fun i hi => ?_,ih hcuts⟩
    exact hcut.trans_le (stop_le_of_mem_remaining hi)
  | case7 cursor start stop cuts hahead hend rest hgap ih =>
    exact ih fun c hc => hcuts c (List.mem_cons_of_mem _ hc)

theorem le_of_mem_of_pairwise {start stop : Rat} {cuts : List (Rat × Rat)} {c : Rat × Rat}
    (hsorted : ((start,stop) :: cuts).Pairwise fun a b => a.1 ≤ b.1)
    (hc : c ∈ (start,stop) :: cuts) : start ≤ c.1 := by
  rcases List.mem_cons.mp hc with rfl | hc
  · exact le_rfl
  · exact (List.pairwise_cons.mp hsorted).1 c hc

/-- Nothing is left of a cut, apart from its ends. -/
theorem not_within_of_mem_remaining {hi cursor t : Rat} {cuts : List (Rat × Rat)}
    (hsorted : cuts.Pairwise fun a b => a.1 ≤ b.1) {c : Rat × Rat} (hc : c ∈ cuts)
    (hlo : c.1 + tolerance < t) (hhi : t + tolerance < c.2) {i : Rat × Rat}
    (hmem : i ∈ remaining hi cursor cuts) : ¬ Within t i := by
  rintro ⟨hfrom,hto⟩
  have hpos := tolerance_pos
  fun_induction remaining hi cursor cuts with
  | case1 => cases hc
  | case2 => cases hc
  | case3 cursor start stop cuts hpast ih =>
    rcases List.mem_cons.mp hc with rfl | hc
    · have hpast : stop ≤ cursor + tolerance := hpast
      linarith [(bounds_of_mem_remaining hmem).1]
    · exact ih (List.pairwise_cons.mp hsorted).2 hc hmem
  | case4 cursor start stop cuts hahead hend hlong =>
    have hstart := le_of_mem_of_pairwise hsorted hc
    have hend : hi - tolerance ≤ start := hend
    obtain rfl := List.mem_singleton.mp hmem
    simp only at hto hstart
    linarith
  | case5 => cases hmem
  | case6 cursor start stop cuts hahead hend rest hgap ih =>
    have hstart := le_of_mem_of_pairwise hsorted hc
    rcases List.mem_cons.mp hmem with rfl | hmem
    · simp only at hto hstart
      linarith
    · rcases List.mem_cons.mp hc with rfl | hc
      · linarith [stop_le_of_mem_remaining hmem]
      · exact ih (List.pairwise_cons.mp hsorted).2 hc hmem
  | case7 cursor start stop cuts hahead hend rest hgap ih =>
    rcases List.mem_cons.mp hc with rfl | hc
    · linarith [stop_le_of_mem_remaining hmem]
    · exact ih (List.pairwise_cons.mp hsorted).2 hc hmem

/-- The cuts of an interval are taken by their starts. -/
theorem pairwise_mergeSort_cuts (cuts : List (Rat × Rat)) :
    (cuts.mergeSort fun a b => precedes a.1 b.1).Pairwise fun a b => a.1 ≤ b.1 := by
  refine (List.pairwise_mergeSort ?_ ?_ cuts).imp fun h => of_decide_eq_true h
  · intro a b c hab hbc
    exact decide_eq_true ((of_decide_eq_true hab).trans (of_decide_eq_true hbc))
  · intro a b
    rw [Bool.or_eq_true]
    exact (le_total a.1 b.1).imp decide_eq_true decide_eq_true

/-- What is left of an interval, whatever the order of the cuts. -/
theorem exists_subtract_iff {lo hi t : Rat} {cuts : List (Rat × Rat)} (hlo : Apart t lo)
    (hhi : Apart t hi) (hclear : ∀ c ∈ cuts, ClearOf t c) :
    (∃ i ∈ subtract lo hi cuts, Within t i) ↔ Within t (lo,hi) ∧ ∀ c ∈ cuts, ¬ Within t c := by
  rw [subtract,exists_remaining_iff (pairwise_mergeSort_cuts cuts) hlo hhi fun c hc =>
    hclear c (List.mem_mergeSort.mp hc)]
  simp only [List.mem_mergeSort]

theorem bounds_of_mem_subtract {lo hi : Rat} {cuts : List (Rat × Rat)} {i : Rat × Rat}
    (h : i ∈ subtract lo hi cuts) : lo ≤ i.1 ∧ i.2 ≤ hi ∧ tolerance < i.2 - i.1 :=
  bounds_of_mem_remaining h

theorem pairwise_subtract {lo hi : Rat} {cuts : List (Rat × Rat)} (hcuts : ∀ c ∈ cuts, c.1 < c.2) :
    (subtract lo hi cuts).Pairwise fun i j => i.2 < j.1 :=
  pairwise_remaining fun c hc => hcuts c (List.mem_mergeSort.mp hc)

theorem not_within_of_mem_subtract {lo hi t : Rat} {cuts : List (Rat × Rat)} {c : Rat × Rat}
    (hc : c ∈ cuts) (hstart : c.1 + tolerance < t) (hstop : t + tolerance < c.2) {i : Rat × Rat}
    (hmem : i ∈ subtract lo hi cuts) : ¬ Within t i :=
  not_within_of_mem_remaining (pairwise_mergeSort_cuts cuts) (List.mem_mergeSort.mpr hc) hstart
    hstop hmem

end Blueprint
