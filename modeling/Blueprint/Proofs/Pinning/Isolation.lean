import Blueprint.Proofs.Pinning.CycleReport
import Blueprint.Proofs.Pinning.Part
import Blueprint.Proofs.Pinning.Solution

/-!
Failures stay where they are. What becomes of a block hangs on the way from it and on nothing else:
a list of blocks that is closed under attachment is pinned alike by itself and within a longer list,
also where the passes run out.
-/

namespace Blueprint

/-- The failure with its blocks under other names. A target keeps the name it was given. -/
def Failure.rename (qualify : String → String) : Failure → Failure
  | missingTarget id target => missingTarget (qualify id) target
  | cycle members => cycle (members.map qualify)
  | unplacedTarget id target => unplacedTarget (qualify id) target
  | outOfPasses passes remaining => outOfPasses passes (remaining.map qualify)
  | duplicate id => duplicate (qualify id)
  | wallReference element reference reason => wallReference element reference reason
  | noOrigin required => noOrigin required

namespace Pinning

variable {α : Type} [Scalar α] {ns : Namespace α} {table : List (Block α)}

/-! ### Names -/

theorem cause_rename (qualify : String → String) (b : Block α) :
    cause ns table qualify b = (cause ns table id b).map (Failure.rename qualify) := by
  by_cases ht : b.attachTo.target ∈ ids table
  · cases hc : cycleThrough ns table b.id with
    | some members =>
      rw [cause_of_cycle ht hc,cause_of_cycle ht hc]
      split <;> simp [Failure.rename]
    | none =>
      have hno := cycleThrough_eq_none_iff.mp hc
      rw [cause_of_not_onCycle ht hno,cause_of_not_onCycle ht hno]
      rfl
  · rw [cause_of_undeclared ht,cause_of_undeclared ht]
    rfl

/-- The names that failures use change nothing else about them. -/
theorem failures_pin_rename (ns : Namespace α) (maxPasses : Nat) (qualify : String → String)
    (blocks : List (Block α)) : (pin ns maxPasses qualify blocks).failures =
      (pin ns maxPasses id blocks).failures.map (Failure.rename qualify) := by
  have hcauses : causes ns qualify blocks =
      (causes ns id blocks).map (Failure.rename qualify) := by
    rw [causes,causes,List.map_filterMap]
    exact List.filterMap_congr fun b _ => cause_rename qualify b
  have hover : overrun ns qualify maxPasses blocks =
      (overrun ns id maxPasses blocks).map (Failure.rename qualify) := by
    unfold overrun
    split <;> simp [Failure.rename]
  rw [failures_pin_eq,failures_pin_eq,hcauses,hover]
  simp [Failure.rename]

/-! ### A closed part of a list -/

omit [Scalar α] in
/-- A part that is left of a table when blocks are taken out keeps the order. -/
theorem sameOrder_of_sublist {part : List (Block α)} (hsub : part.Sublist table)
    (hd : (ids table).Nodup) : SameOrder part table := by
  have hpart : (ids part).Nodup := hd.sublist (hsub.map _)
  have horder := List.pairwise_iff_getElem.mp ((pairwise_position hd).sublist hsub)
  intro s hs t ht
  obtain ⟨a,ha,rfl⟩ := mem_ids.mp hs
  obtain ⟨b,hb,rfl⟩ := mem_ids.mp ht
  obtain ⟨i,hi,rfl⟩ := List.getElem_of_mem ha
  obtain ⟨j,hj,rfl⟩ := List.getElem_of_mem hb
  rw [position_getElem hpart hi,position_getElem hpart hj]
  rcases Nat.lt_trichotomy i j with hij | rfl | hij
  · have hlt := horder i j hi hj hij
    omega
  · simp
  · have hlt := horder j i hj hi hij
    omega

omit [Scalar α] in
theorem declared?_of_sublist {part : List (Block α)} (hsub : part.Sublist table)
    (hd : (ids table).Nodup) {name : String} (hname : name ∈ ids part) :
    declared? part name = declared? table name := by
  have hpart : (ids part).Nodup := hd.sublist (hsub.map _)
  obtain ⟨b,hb,rfl⟩ := mem_ids.mp hname
  rw [declared?_of_mem hpart hb,declared?_of_mem hd (hsub.subset hb)]

omit [Scalar α] in
/-- A part that holds what its blocks are attached to is closed. -/
theorem closedIn_of_sublist {part : List (Block α)} (hsub : part.Sublist table)
    (hd : (ids table).Nodup) (hclosed : ∀ b ∈ part, b.attachTo.target ≠ ns.reserved →
      b.attachTo.target ∈ ids table → b.attachTo.target ∈ ids part) :
    ClosedIn ns part ns table := by
  refine ⟨fun name hname => ?_,fun name hname target => ?_,?_⟩
  · rw [AtReserved,AtReserved,declared?_of_sublist hsub hd hname]
  · rw [AttachedTo,AttachedTo,declared?_of_sublist hsub hd hname]
  · rintro name hname target ⟨b,hb,hne,rfl⟩ ht
    rw [← declared?_of_sublist hsub hd hname] at hb
    exact hclosed b (mem_of_declared? hb) hne ht

theorem ClosedIn.toldCycle?_eq {ns' : Namespace α} {part : List (Block α)}
    (h : ClosedIn ns' part ns table) (ho : SameOrder part table) {name : String}
    (hname : name ∈ ids part) : toldCycle? ns' part name = toldCycle? ns table name := by
  refine Option.ext fun members => ?_
  rw [toldCycle?_eq_some_iff,toldCycle?_eq_some_iff,h.cycleThrough_eq hname]
  refine and_congr_right fun hc => forall₂_congr fun x hx => ho name hname x ?_
  rw [← h.cycleThrough_eq hname] at hc
  exact (cycleThrough_eq_some_iff.mp hc).mem_ids x hx

/-! ### Rectangles -/

theorem mem_keys_pin {maxPasses : Nat} {qualify : String → String} {blocks : List (Block α)}
    {name : String} : name ∈ (pin ns maxPasses qualify blocks).rects.map (·.1) ↔
      RankedWithin ns (firstDeclared blocks) maxPasses name := by
  rw [keys_pin,List.mem_filter,decide_eq_true_eq]
  refine and_iff_right_of_imp fun h => h.grounded.mem_ids

theorem lookup_pin_eq_none_iff {maxPasses : Nat} {qualify : String → String}
    {blocks : List (Block α)} {name : String} :
    (pin ns maxPasses qualify blocks).rects.lookup name = none ↔
      name ∉ (pin ns maxPasses qualify blocks).rects.map (·.1) := by
  rw [← Places.has_iff_mem,Places.has,Option.not_isSome_iff_eq_none]

/-- Two lists that declare some blocks alike, and place the same of them, give them the same
rectangles: those of the first list solve the attachments of the second. -/
theorem lookup_pin_eq {maxPasses maxPasses' : Nat} {qualify qualify' : String → String}
    {part blocks : List (Block α)}
    (hdecl : ∀ name ∈ ids part, declared? part name = declared? blocks name)
    (hplaced : ∀ name ∈ ids part, (name ∈ (pin ns maxPasses' qualify' part).rects.map (·.1) ↔
      name ∈ (pin ns maxPasses qualify blocks).rects.map (·.1)))
    {name : String} (hname : name ∈ ids part) :
    (pin ns maxPasses' qualify' part).rects.lookup name =
      (pin ns maxPasses qualify blocks).rects.lookup name := by
  have hpart : Solves ns part fun id rect => (id,rect) ∈ (pin ns maxPasses' qualify' part).rects :=
    solves_pin
  have hsolves : Solves ns blocks
      fun id rect => (id,rect) ∈ (pin ns maxPasses' qualify' part).rects := by
    intro id rect hmem
    obtain ⟨b,hb,htarget⟩ := hpart id rect hmem
    exact ⟨b,hdecl id (mem_ids_of_declared? hb) ▸ hb,htarget⟩
  cases hrect : (pin ns maxPasses' qualify' part).rects.lookup name with
  | none =>
    rw [lookup_pin_eq_none_iff,hplaced name hname,← lookup_pin_eq_none_iff] at hrect
    exact hrect.symm
  | some rect =>
    have hmem : (name,rect) ∈ (pin ns maxPasses qualify blocks).rects := by
      refine hsolves.mem_pin (fun id rect hmem => ?_) (mem_pin_iff.mp hrect)
      obtain ⟨b,hb,_⟩ := hpart id rect hmem
      exact (hplaced id (mem_ids_of_declared? hb)).mp (List.mem_map.mpr ⟨_,hmem,rfl⟩)
    exact (mem_pin_iff.mpr hmem).symm

/-! ### The fate of a block -/

/-- Two pinnings, with failures that name blocks by their ids, agree about one block: it has the
same rectangle in both or is told in the same kind of failure. -/
structure SameFate (name : String) (places' : Places α) (told' : List Failure) (places : Places α)
    (told : List Failure) : Prop where
  rect : places'.lookup name = places.lookup name
  /-- A block without a rectangle is told. -/
  reported : places'.lookup name = none →
    (∃ target, .missingTarget name target ∈ told') ∨
    (∃ target, .unplacedTarget name target ∈ told') ∨
    (∃ members, .cycle members ∈ told' ∧ name ∈ members) ∨
    ∃ passes remaining, .outOfPasses passes remaining ∈ told' ∧ name ∈ remaining
  missing : ∀ target, .missingTarget name target ∈ told' ↔ .missingTarget name target ∈ told
  unplaced : ∀ target, .unplacedTarget name target ∈ told' ↔ .unplacedTarget name target ∈ told
  cyclic : ∀ members, name ∈ members → (.cycle members ∈ told' ↔ .cycle members ∈ told)
  late : (∃ passes remaining, .outOfPasses passes remaining ∈ told' ∧ name ∈ remaining) ↔
    ∃ passes remaining, .outOfPasses passes remaining ∈ told ∧ name ∈ remaining

theorem cycle_mem_pin_iff_mem_toldCycles {maxPasses : Nat} {qualify : String → String}
    {blocks : List (Block α)} {names : List String} :
    .cycle names ∈ (pin ns maxPasses qualify blocks).failures ↔
      ∃ members ∈ toldCycles ns (firstDeclared blocks), members.map qualify = names := by
  have hmem : .cycle names ∈ (pin ns maxPasses qualify blocks).failures ↔
      .cycle names ∈ (pin ns maxPasses qualify blocks).failures.filter Failure.isCycle := by
    simp [Failure.isCycle]
  rw [hmem,filter_isCycle_failures_pin]
  simp

/-- A declared block without a place is told, in one of four kinds of failures. -/
theorem reported_of_lookup_eq_none {maxPasses : Nat} {blocks : List (Block α)} {name : String}
    (hname : name ∈ ids blocks) (h : (pin ns maxPasses id blocks).rects.lookup name = none) :
    (∃ target, .missingTarget name target ∈ (pin ns maxPasses id blocks).failures) ∨
    (∃ target, .unplacedTarget name target ∈ (pin ns maxPasses id blocks).failures) ∨
    (∃ members, .cycle members ∈ (pin ns maxPasses id blocks).failures ∧ name ∈ members) ∨
    ∃ passes remaining, .outOfPasses passes remaining ∈ (pin ns maxPasses id blocks).failures ∧
      name ∈ remaining := by
  have hinj := Function.injective_id (α := String)
  by_cases hg : Grounded ns (firstDeclared blocks) name
  · refine Or.inr (Or.inr (Or.inr ?_))
    exact (exists_outOfPasses_mem_pin_iff hinj).mpr ⟨hg,lookup_pin_eq_none_iff.mp h⟩
  · rcases atReserved_or_attachedTo ns (mem_ids_firstDeclared.mpr hname) with hr | ⟨target,hatt⟩
    · exact absurd (.reserved hr) hg
    · by_cases ht : target ∈ ids blocks
      · by_cases hcycle : OnCycle ns (firstDeclared blocks) name
        · exact Or.inr (Or.inr (Or.inl ((exists_cycle_mem_pin_iff hinj).mpr hcycle)))
        · exact Or.inr (Or.inl ⟨target,(unplacedTarget_mem_pin_iff hinj).mpr ⟨hatt,ht,hcycle,hg⟩⟩)
      · exact Or.inl ⟨target,(missingTarget_mem_pin_iff hinj).mpr ⟨hatt,ht⟩⟩

/-- A block of a closed part that keeps the order has the same fate in the part as in the whole. -/
theorem ClosedIn.sameFate {part blocks : List (Block α)}
    (h : ClosedIn ns (firstDeclared part) ns (firstDeclared blocks))
    (ho : SameOrder (firstDeclared part) (firstDeclared blocks))
    (hdecl : ∀ name ∈ ids part, declared? part name = declared? blocks name) (maxPasses : Nat)
    {name : String} (hname : name ∈ ids part) :
    SameFate name (pin ns maxPasses id part).rects (pin ns maxPasses id part).failures
      (pin ns maxPasses id blocks).rects (pin ns maxPasses id blocks).failures := by
  have hinj := Function.injective_id (α := String)
  have hin : name ∈ ids (firstDeclared part) := mem_ids_firstDeclared.mpr hname
  have hplaced (name : String) (hname : name ∈ ids part) :
      name ∈ (pin ns maxPasses id part).rects.map (·.1) ↔
        name ∈ (pin ns maxPasses id blocks).rects.map (·.1) := by
    rw [mem_keys_pin,mem_keys_pin]
    exact h.rankedWithin_iff ho (mem_ids_firstDeclared.mpr hname)
  have htarget (target : String) (hatt : AttachedTo ns (firstDeclared part) name target) :
      target ∈ ids part ↔ target ∈ ids blocks := by
    rw [← mem_ids_firstDeclared,h.target_mem_iff hatt,mem_ids_firstDeclared]
  refine ⟨lookup_pin_eq hdecl hplaced hname,reported_of_lookup_eq_none hname,?_,?_,?_,?_⟩
  · intro target
    refine (missingTarget_mem_pin_iff hinj).trans
      (Iff.trans ?_ (missingTarget_mem_pin_iff hinj).symm)
    rw [← h.attached name hin target]
    exact and_congr_right fun hatt => not_congr (htarget target hatt)
  · intro target
    refine (unplacedTarget_mem_pin_iff hinj).trans
      (Iff.trans ?_ (unplacedTarget_mem_pin_iff hinj).symm)
    rw [← h.attached name hin target,← h.onCycle_iff hin,← h.grounded_iff hin]
    exact and_congr_right fun hatt => and_congr_left' (htarget target hatt)
  · intro members hmem
    simp only [cycle_mem_pin_iff_mem_toldCycles,List.map_id,exists_eq_right,mem_toldCycles]
    -- the block that tells the cycle is a member of it, and so in the part with the given one
    constructor
    · rintro ⟨first,hfirst⟩
      have hwalk := cycleThrough_eq_some_iff.mp (toldCycle?_eq_some_iff.mp hfirst).1
      exact ⟨first,h.toldCycle?_eq ho hwalk.head_mem_ids ▸ hfirst⟩
    · rintro ⟨first,hfirst⟩
      have hcycle := isCycle_of_cycleThrough (toldCycle?_eq_some_iff.mp hfirst).1
      obtain ⟨around,haround,hturn⟩ := hcycle.exists_cycleThrough (Cycle.mem_coe_iff.mpr hmem)
      rw [← h.cycleThrough_eq hin] at haround
      have hwalk := cycleThrough_eq_some_iff.mp (toldCycle?_eq_some_iff.mp hfirst).1
      have hfirst' : first ∈ around :=
        (Cycle.coe_eq_coe.mp hturn).perm.mem_iff.mpr hwalk.head_mem
      have hpart := (cycleThrough_eq_some_iff.mp haround).mem_ids first hfirst'
      exact ⟨first,(h.toldCycle?_eq ho hpart).trans hfirst⟩
  · refine (exists_outOfPasses_mem_pin_iff hinj).trans
      (Iff.trans ?_ (exists_outOfPasses_mem_pin_iff hinj).symm)
    rw [h.grounded_iff hin,hplaced name hname]

/-- Blocks that nothing in a part is attached to can be added or taken away without a difference to
the part. -/
theorem pin_isolated {part blocks : List (Block α)} (hsub : part.Sublist blocks)
    (hd : (ids blocks).Nodup) (hclosed : ∀ b ∈ part, b.attachTo.target ≠ ns.reserved →
      b.attachTo.target ∈ ids blocks → b.attachTo.target ∈ ids part)
    (maxPasses : Nat) (qualify : String → String) :
    (pin ns maxPasses qualify part).failures =
      (pin ns maxPasses id part).failures.map (Failure.rename qualify) ∧
    (pin ns maxPasses qualify blocks).failures =
      (pin ns maxPasses id blocks).failures.map (Failure.rename qualify) ∧
    ∀ name ∈ ids part, SameFate name
      (pin ns maxPasses qualify part).rects (pin ns maxPasses id part).failures
      (pin ns maxPasses qualify blocks).rects (pin ns maxPasses id blocks).failures := by
  have hpart : (ids part).Nodup := hd.sublist (hsub.map _)
  have h := closedIn_of_sublist hsub hd hclosed
  have ho := sameOrder_of_sublist hsub hd
  rw [← firstDeclared_of_nodup hpart,← firstDeclared_of_nodup hd] at h ho
  exact ⟨failures_pin_rename ns maxPasses qualify part,
    failures_pin_rename ns maxPasses qualify blocks,
    fun name hname => h.sameFate ho (fun _ => declared?_of_sublist hsub hd) maxPasses hname⟩

/-- The chain and the cycle of the tangle, without what hangs on them. -/
def knot : List (Block Rat) :=
  [unitBlock "far" "mid",unitBlock "mid" "near",unitBlock "near" originName,
    unitBlock "left" "right",unitBlock "right" "left"]

theorem pin_isolated_knot :
    knot.Sublist tangle.dropLast ∧ (ids tangle.dropLast).Nodup ∧
    (∀ b ∈ knot, b.attachTo.target ≠ (Namespace.rooms : Namespace Rat).reserved →
      b.attachTo.target ∈ ids tangle.dropLast → b.attachTo.target ∈ ids knot) ∧
    (pin .rooms 2 id knot).failures = [.cycle ["left","right"],.outOfPasses 2 ["far"]] ∧
    (pin .rooms 2 id knot).failures = (pin .rooms 2 id knot).failures.map (Failure.rename id) ∧
    (pin .rooms 2 id tangle.dropLast).failures =
      (pin .rooms 2 id tangle.dropLast).failures.map (Failure.rename id) ∧
    ∀ name ∈ ids knot, SameFate name (pin .rooms 2 id knot).rects (pin .rooms 2 id knot).failures
      (pin .rooms 2 id tangle.dropLast).rects (pin .rooms 2 id tangle.dropLast).failures :=
  ⟨by decide +kernel,by decide +kernel,by decide +kernel,by decide +kernel,
    pin_isolated (by decide +kernel) (by decide +kernel) (by decide +kernel) 2 id⟩

end Pinning
end Blueprint
