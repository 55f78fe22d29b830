import Blueprint.Proofs.Pinning.Diagnosis

/-!
Parts of a table. A part holds some blocks of a table with the attachments that they have there, and
it is closed if it holds whatever its blocks are attached to. What becomes of a block is settled by
the way from it, which stays in a closed part; so the part tells it as the whole table does. If the
part keeps the order of the table as well, it also tells in which pass the block finds its place.
-/

namespace Blueprint
namespace Pinning

variable {α : Type}

/-- The attachments of one table are those of another, and lead to no block of the other table that
the first one does not have. -/
structure ClosedIn (ns' : Namespace α) (part : List (Block α)) (ns : Namespace α)
    (table : List (Block α)) : Prop where
  reserved : ∀ id ∈ ids part, (AtReserved ns' part id ↔ AtReserved ns table id)
  attached : ∀ id ∈ ids part, ∀ target,
    (AttachedTo ns' part id target ↔ AttachedTo ns table id target)
  closed : ∀ id ∈ ids part, ∀ target, AttachedTo ns table id target → target ∈ ids table →
    target ∈ ids part

/-- The blocks that two tables share stand in the same order. -/
def SameOrder (part table : List (Block α)) : Prop :=
  ∀ s ∈ ids part, ∀ t ∈ ids part,
    (position part s ≤ position part t ↔ position table s ≤ position table t)

variable {ns' ns : Namespace α} {part table : List (Block α)}

/-- Every block is attached to the reserved name or to another one. -/
theorem atReserved_or_attachedTo (ns : Namespace α) {id : String} (h : id ∈ ids table) :
    AtReserved ns table id ∨ ∃ target, AttachedTo ns table id target := by
  obtain ⟨b,hb⟩ := Option.isSome_iff_exists.mp (isSome_declared?.mpr h)
  by_cases hr : b.attachTo.target = ns.reserved
  · exact Or.inl ⟨b,hb,hr⟩
  · exact Or.inr ⟨_,b,hb,hr,rfl⟩

/-- Tables that answer every look-up alike have the same attachments. -/
theorem closedIn_of_declared? (h : ∀ id, declared? part id = declared? table id) :
    ClosedIn ns part ns table where
  reserved id _ := by rw [AtReserved,AtReserved,h]
  attached id _ target := by rw [AttachedTo,AttachedTo,h]
  closed _ _ target _ ht := by rwa [← isSome_declared?,h,isSome_declared?]

namespace ClosedIn

theorem mem_ids (h : ClosedIn ns' part ns table) {id : String} (hid : id ∈ ids part) :
    id ∈ ids table := by
  rcases atReserved_or_attachedTo ns' hid with hr | ⟨target,hatt⟩
  · exact ((h.reserved id hid).mp hr).mem_ids
  · exact ((h.attached id hid target).mp hatt).mem_ids

/-- A target of the part is declared in it exactly if it is declared in the table. -/
theorem target_mem_iff (h : ClosedIn ns' part ns table) {id target : String}
    (hatt : AttachedTo ns' part id target) : target ∈ ids part ↔ target ∈ ids table := by
  constructor
  · exact h.mem_ids
  · exact h.closed id hatt.mem_ids target ((h.attached id hatt.mem_ids target).mp hatt)

/-! ### The way from a block -/

theorem grounded_iff (h : ClosedIn ns' part ns table) {id : String} (hid : id ∈ ids part) :
    Grounded ns' part id ↔ Grounded ns table id := by
  constructor
  · intro hg
    induction hg with
    | reserved hr => exact .reserved ((h.reserved _ hr.mem_ids).mp hr)
    | attached hatt hg ih =>
      exact .attached ((h.attached _ hatt.mem_ids _).mp hatt) (ih hg.mem_ids)
  · intro hg
    induction hg with
    | reserved hr => exact .reserved ((h.reserved _ hid).mpr hr)
    | attached hatt hg ih =>
      exact .attached ((h.attached _ hid _).mpr hatt) (ih (h.closed _ hid _ hatt hg.mem_ids))

theorem walk_iff (h : ClosedIn ns' part ns table) {stop' stop : String → Prop}
    (hstop : ∀ id ∈ ids part, (stop' id ↔ stop id)) {id : String} (hid : id ∈ ids part)
    {path : List String} : Walk ns' part stop' id path ↔ Walk ns table stop id path := by
  constructor
  · intro hwalk
    induction hwalk with
    | done hid hend => exact .done (h.mem_ids hid) ((hstop _ hid).mp hend)
    | step hgo hatt hwalk ih =>
      have hid := hatt.mem_ids
      exact .step (mt (hstop _ hid).mpr hgo) ((h.attached _ hid _).mp hatt) (ih hwalk.head_mem_ids)
  · intro hwalk
    induction hwalk with
    | done _ hend => exact .done hid ((hstop _ hid).mpr hend)
    | step hgo hatt hwalk ih =>
      have hnext := h.closed _ hid _ hatt hwalk.head_mem_ids
      exact .step (mt (hstop _ hid).mp hgo) ((h.attached _ hid _).mpr hatt) (ih hnext)

theorem cycleThrough_eq [Scalar α] (h : ClosedIn ns' part ns table) {id : String}
    (hid : id ∈ ids part) : cycleThrough ns' part id = cycleThrough ns table id := by
  refine Option.ext fun members => ?_
  simp only [cycleThrough_eq_some_iff]
  exact h.walk_iff (fun x hx => h.attached x hx id) hid

theorem onCycle_iff [Scalar α] (h : ClosedIn ns' part ns table) {id : String}
    (hid : id ∈ ids part) : OnCycle ns' part id ↔ OnCycle ns table id := by
  rw [← isSome_cycleThrough_iff,← isSome_cycleThrough_iff,h.cycleThrough_eq hid]

/-! ### Ranks -/

theorem position_lt_iff (ho : SameOrder part table) {s t : String} (hs : s ∈ ids part)
    (ht : t ∈ ids part) :
    position part s < position part t ↔ position table s < position table t := by
  rw [← Nat.not_le,← Nat.not_le]
  exact not_congr (ho t ht s hs)

theorem ranked_iff (h : ClosedIn ns' part ns table) (ho : SameOrder part table) {id : String}
    (hid : id ∈ ids part) {n : Nat} : Ranked ns' part id n ↔ Ranked ns table id n := by
  constructor
  · intro hn
    induction hn with
    | reserved hr => exact .reserved ((h.reserved _ hid).mp hr)
    | earlier hatt hlt hn ih =>
      have ht := hn.mem_ids
      exact .earlier ((h.attached _ hid _).mp hatt) ((position_lt_iff ho ht hid).mp hlt) (ih ht)
    | later hatt hgt hn ih =>
      have ht := hn.mem_ids
      exact .later ((h.attached _ hid _).mp hatt) ((position_lt_iff ho hid ht).mp hgt) (ih ht)
  · intro hn
    induction hn with
    | reserved hr => exact .reserved ((h.reserved _ hid).mpr hr)
    | earlier hatt hlt hn ih =>
      have ht := h.closed _ hid _ hatt hn.mem_ids
      exact .earlier ((h.attached _ hid _).mpr hatt) ((position_lt_iff ho ht hid).mpr hlt) (ih ht)
    | later hatt hgt hn ih =>
      have ht := h.closed _ hid _ hatt hn.mem_ids
      exact .later ((h.attached _ hid _).mpr hatt) ((position_lt_iff ho hid ht).mpr hgt) (ih ht)

theorem rankedWithin_iff (h : ClosedIn ns' part ns table) (ho : SameOrder part table) {id : String}
    (hid : id ∈ ids part) {most : Nat} :
    RankedWithin ns' part most id ↔ RankedWithin ns table most id :=
  exists_congr fun _ => and_congr_right fun _ => h.ranked_iff ho hid

/-! ### Causes -/

/-- Off the cycles, a block of the part fails for the same cause whatever the order. -/
theorem cause_eq_of_not_onCycle [Scalar α] (h : ClosedIn ns' part ns table)
    {qualify : String → String} {b c : Block α} (hid : c.id = b.id)
    (htarget : c.attachTo.target = b.attachTo.target)
    (hatt : AttachedTo ns' part c.id c.attachTo.target) (hno : ¬ OnCycle ns' part c.id) :
    cause ns' part qualify c = cause ns table qualify b := by
  have ht := h.target_mem_iff hatt
  by_cases hdecl : c.attachTo.target ∈ ids part
  · have hdecl' : b.attachTo.target ∈ ids table := htarget ▸ ht.mp hdecl
    have hno' : ¬ OnCycle ns table b.id := hid ▸ mt (h.onCycle_iff hatt.mem_ids).mpr hno
    rw [cause_of_not_onCycle hdecl hno,cause_of_not_onCycle hdecl' hno',hid,htarget]
  · have hdecl' : b.attachTo.target ∉ ids table := htarget ▸ mt ht.mpr hdecl
    rw [cause_of_undeclared hdecl,cause_of_undeclared hdecl',hid,htarget]

/-- A block of the part that is attached to no reserved name fails for the same cause. -/
theorem cause_eq [Scalar α] (h : ClosedIn ns' part ns table) (ho : SameOrder part table)
    {qualify : String → String} {b c : Block α} (hid : c.id = b.id)
    (htarget : c.attachTo.target = b.attachTo.target)
    (hatt : AttachedTo ns' part c.id c.attachTo.target) :
    cause ns' part qualify c = cause ns table qualify b := by
  have hmem := hatt.mem_ids
  have hcycle : cycleThrough ns table b.id = cycleThrough ns' part c.id := by
    rw [h.cycleThrough_eq hmem,hid]
  cases hc : cycleThrough ns' part c.id with
  | none => exact h.cause_eq_of_not_onCycle hid htarget hatt (cycleThrough_eq_none_iff.mp hc)
  | some members =>
    -- the members of a cycle through the part are in the part, where the order is the same
    have hwalk := cycleThrough_eq_some_iff.mp hc
    have hdecl := (isSome_cycleThrough_iff.mp ⟨_,hc⟩).target_mem_ids hatt
    have hfirst : (∀ x ∈ members, position part c.id ≤ position part x) ↔
        ∀ x ∈ members, position table b.id ≤ position table x :=
      forall₂_congr fun x hx => hid ▸ ho c.id hmem x (hwalk.mem_ids x hx)
    rw [cause_of_cycle hdecl hc,
      cause_of_cycle (htarget ▸ (h.target_mem_iff hatt).mp hdecl) (hcycle.trans hc)]
    simp only [hfirst]

end ClosedIn

end Pinning
end Blueprint
