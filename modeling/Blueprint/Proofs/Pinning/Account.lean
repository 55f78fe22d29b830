import Blueprint.Proofs.Pinning.Diagnosis
import Mathlib.Data.Finset.Max

/-!
The account of a pinning. Every id that is declared has a place or is named by one failure, and the
kind of the failure says where its attachments lead: to a name declared nowhere, round a cycle, to
something that cannot be placed, or to the reserved name, but too late.
-/

namespace Blueprint
namespace Pinning

variable {α : Type} [Scalar α] {ns : Namespace α} {table : List (Block α)}
  {qualify : String → String}

/-! ### What one stranded block tells -/

/-- The ids that a stranded block tells of. -/
def tells (ns : Namespace α) (table : List (Block α)) (b : Block α) : List String :=
  match cycleThrough ns table b.id with
  | some members => if ∀ x ∈ members, position table b.id ≤ position table x then members else []
  | none => [b.id]

theorem target_mem_ids_of_onCycle (hd : (ids table).Nodup) {b : Block α}
    (hb : b ∈ stranded ns table) (h : OnCycle ns table b.id) : b.attachTo.target ∈ ids table := by
  obtain ⟨hb,hg⟩ := mem_stranded.mp hb
  exact h.target_mem_ids (attachedTo_of_not_grounded hd hb hg)

/-- The cause of a stranded block names the ids it tells of. -/
theorem entities_cause (hd : (ids table).Nodup) {b : Block α} (hb : b ∈ stranded ns table) :
    (cause ns table qualify b).toList.flatMap Failure.entities =
      (tells ns table b).map qualify := by
  cases hc : cycleThrough ns table b.id with
  | some members =>
    have hcycle : OnCycle ns table b.id := isSome_cycleThrough_iff.mp ⟨members,hc⟩
    rw [cause_of_cycle (target_mem_ids_of_onCycle hd hb hcycle) hc]
    simp only [tells,hc]
    split <;> simp [Failure.entities]
  | none =>
    have hno := cycleThrough_eq_none_iff.mp hc
    by_cases ht : b.attachTo.target ∈ ids table
    · simp [cause_of_not_onCycle ht hno,tells,hc,Failure.entities]
    · simp [cause_of_undeclared ht,tells,hc,Failure.entities]

/-- A block off all cycles tells of itself; on a cycle, the first member tells of all members. -/
theorem mem_tells_iff {b : Block α} {x : String} :
    x ∈ tells ns table b ↔ (¬ OnCycle ns table b.id ∧ x = b.id) ∨
      (OnCycle ns table b.id ∧ LeadsTo ns table b.id x ∧
        ∀ y, LeadsTo ns table b.id y → position table b.id ≤ position table y) := by
  cases hc : cycleThrough ns table b.id with
  | some members =>
    have hcycle : OnCycle ns table b.id := isSome_cycleThrough_iff.mp ⟨members,hc⟩
    simp only [tells,hc]
    split
    · rename_i hfirst
      simp only [mem_cycleThrough_iff hc] at hfirst
      simpa [hcycle,mem_cycleThrough_iff hc] using fun _ => hfirst
    · rename_i hlate
      simp only [mem_cycleThrough_iff hc] at hlate
      simpa [hcycle] using fun _ => hlate
  | none =>
    have hno := cycleThrough_eq_none_iff.mp hc
    simp [tells,hc,hno]

/-- Every cycle has a member that is declared first. -/
theorem OnCycle.exists_first {id : String} (h : OnCycle ns table id) :
    ∃ b ∈ table, LeadsTo ns table id b.id ∧
      ∀ y, LeadsTo ns table b.id y → position table b.id ≤ position table y := by
  obtain ⟨members,hc⟩ := isSome_cycleThrough_iff.mpr h
  have hne : members.toFinset.Nonempty :=
    ⟨id,List.mem_toFinset.mpr ((mem_cycleThrough_iff hc).mpr .refl)⟩
  obtain ⟨x,hx,hmin⟩ := Finset.exists_min_image members.toFinset (position table) hne
  have hlead := (mem_cycleThrough_iff hc).mp (List.mem_toFinset.mp hx)
  obtain ⟨b,hb,rfl⟩ := Pinning.mem_ids.mp (h.of_leadsTo hlead).mem_ids
  refine ⟨b,hb,hlead,fun y hy => hmin y ?_⟩
  exact List.mem_toFinset.mpr ((mem_cycleThrough_iff hc).mpr (hlead.trans hy))

/-! ### What all stranded blocks tell -/

theorem mem_flatMap_tells_iff {x : String} :
    x ∈ (stranded ns table).flatMap (tells ns table) ↔ x ∈ ids (stranded ns table) := by
  rw [List.mem_flatMap]
  constructor
  · rintro ⟨b,hb,hx⟩
    rcases mem_tells_iff.mp hx with ⟨_,rfl⟩ | ⟨hcycle,hlead,_⟩
    · exact mem_ids_of_mem hb
    · have hxcycle := hcycle.of_leadsTo hlead
      obtain ⟨c,hc,rfl⟩ := mem_ids.mp hxcycle.mem_ids
      exact mem_ids_of_mem (mem_stranded.mpr ⟨hc,hxcycle.not_grounded⟩)
  · intro hx
    obtain ⟨c,hc,rfl⟩ := mem_ids.mp hx
    by_cases hcycle : OnCycle ns table c.id
    · obtain ⟨b,hb,hlead,hfirst⟩ := hcycle.exists_first
      have hbcycle := hcycle.of_leadsTo hlead
      exact ⟨b,mem_stranded.mpr ⟨hb,hbcycle.not_grounded⟩,
        mem_tells_iff.mpr (Or.inr ⟨hbcycle,hcycle.leadsTo_back hlead,hfirst⟩)⟩
    · exact ⟨c,hc,mem_tells_iff.mpr (Or.inl ⟨hcycle,rfl⟩)⟩

theorem nodup_tells (b : Block α) : (tells ns table b).Nodup := by
  unfold tells
  split
  · rename_i members hc
    split
    · exact (cycleThrough_eq_some_iff.mp hc).nodup
    · exact List.nodup_nil
  · simp

/-- No id is told by two blocks. -/
theorem eq_of_mem_tells {a b : Block α} (ha : a.id ∈ ids table) {x : String}
    (hxa : x ∈ tells ns table a) (hxb : x ∈ tells ns table b) : a.id = b.id := by
  rcases mem_tells_iff.mp hxa with ⟨hna,rfl⟩ | ⟨hca,hla,hfa⟩
  · rcases mem_tells_iff.mp hxb with ⟨_,he⟩ | ⟨hcb,hlb,_⟩
    · exact he
    · exact absurd (hcb.of_leadsTo hlb) hna
  · rcases mem_tells_iff.mp hxb with ⟨hnb,rfl⟩ | ⟨hcb,hlb,hfb⟩
    · exact absurd (hca.of_leadsTo hla) hnb
    · have hab := hfa b.id (hla.trans (hcb.leadsTo_back hlb))
      have hba := hfb a.id (hlb.trans (hca.leadsTo_back hla))
      exact position_inj ha (by omega)

theorem perm_flatMap_tells (hd : (ids table).Nodup) :
    ((stranded ns table).flatMap (tells ns table)).Perm (ids (stranded ns table)) := by
  have hids : (ids (stranded ns table)).Nodup := by
    have hsub : (ids (stranded ns table)).Sublist (ids table) := List.filter_sublist.map _
    exact hd.sublist hsub
  refine (List.perm_ext_iff_of_nodup ?_ hids).mpr fun x => mem_flatMap_tells_iff
  rw [List.nodup_flatMap]
  refine ⟨fun b _ => nodup_tells b,?_⟩
  refine (List.pairwise_map.mp hids).imp_of_mem fun {a b} ha _ hne => ?_
  intro x hxa hxb
  exact hne (eq_of_mem_tells (mem_ids_of_mem (mem_stranded.mp ha).1) hxa hxb)

/-! ### Stranded blocks and their attachments -/

theorem attachedTo_of_stranded (hd : (ids table).Nodup) {b : Block α}
    (hb : b ∈ stranded ns table) : AttachedTo ns table b.id b.attachTo.target := by
  obtain ⟨hb,hg⟩ := mem_stranded.mp hb
  exact attachedTo_of_not_grounded hd hb hg

theorem AttachedTo.exists_stranded {id target : String} (h : AttachedTo ns table id target)
    (hg : ¬ Grounded ns table id) :
    ∃ b ∈ stranded ns table, b.id = id ∧ b.attachTo.target = target := by
  obtain ⟨b,hb,_,rfl⟩ := h
  obtain rfl := id_of_declared? hb
  exact ⟨b,mem_stranded.mpr ⟨mem_of_declared? hb,hg⟩,rfl,rfl⟩

/-! ### Reading a cause back -/

theorem cause_eq_missingTarget_iff {b : Block α} {name target : String} :
    cause ns table qualify b = some (.missingTarget name target) ↔
      b.attachTo.target ∉ ids table ∧ qualify b.id = name ∧ b.attachTo.target = target := by
  by_cases ht : b.attachTo.target ∈ ids table
  · cases hc : cycleThrough ns table b.id with
    | some members => simp [cause_of_cycle ht hc,ht]
    | none => simp [cause_of_not_onCycle ht (cycleThrough_eq_none_iff.mp hc),ht]
  · simp [cause_of_undeclared ht,ht]

theorem cause_eq_unplacedTarget_iff {b : Block α} {name target : String} :
    cause ns table qualify b = some (.unplacedTarget name target) ↔
      (b.attachTo.target ∈ ids table ∧ ¬ OnCycle ns table b.id) ∧
        qualify b.id = name ∧ b.attachTo.target = target := by
  by_cases ht : b.attachTo.target ∈ ids table
  · cases hc : cycleThrough ns table b.id with
    | some members =>
      have hcycle : OnCycle ns table b.id := isSome_cycleThrough_iff.mp ⟨members,hc⟩
      simp [cause_of_cycle ht hc,hcycle]
    | none =>
      have hno := cycleThrough_eq_none_iff.mp hc
      simp [cause_of_not_onCycle ht hno,ht,hno]
  · simp [cause_of_undeclared ht,ht]

theorem cause_eq_cycle_iff {b : Block α} {names : List String} :
    cause ns table qualify b = some (.cycle names) ↔
      b.attachTo.target ∈ ids table ∧ ∃ members, cycleThrough ns table b.id = some members ∧
        (∀ x ∈ members, position table b.id ≤ position table x) ∧
          members.map qualify = names := by
  by_cases ht : b.attachTo.target ∈ ids table
  · cases hc : cycleThrough ns table b.id with
    | some members => simp [cause_of_cycle ht hc,ht]
    | none => simp [cause_of_not_onCycle ht (cycleThrough_eq_none_iff.mp hc)]
  · simp [cause_of_undeclared ht,ht]

/-- A cause is told under the name of its block. -/
theorem head?_entities_of_cause {b : Block α} {f : Failure}
    (h : cause ns table qualify b = some f) : f.entities.head? = some (qualify b.id) := by
  by_cases ht : b.attachTo.target ∈ ids table
  · cases hc : cycleThrough ns table b.id with
    | some members =>
      have hhead : members.head? = some b.id := by
        cases cycleThrough_eq_some_iff.mp hc <;> rfl
      rw [cause_of_cycle ht hc] at h
      split at h
      · obtain rfl : _ = f := Option.some.inj h
        simp [Failure.entities,hhead]
      · cases h
    | none =>
      rw [cause_of_not_onCycle ht (cycleThrough_eq_none_iff.mp hc)] at h
      obtain rfl : _ = f := Option.some.inj h
      rfl
  · rw [cause_of_undeclared ht] at h
    obtain rfl : _ = f := Option.some.inj h
    rfl

/-! ### The failures of a pinning -/

section Pin

variable (ns) (maxPasses : Nat) (qualify) (blocks : List (Block α))

/-- What is told between the repeated ids and the end of the passes. -/
def causes : List Failure :=
  (stranded ns (firstDeclared blocks)).filterMap (cause ns (firstDeclared blocks) qualify)

/-- What is told of the blocks that came too late. -/
def overrun : List Failure :=
  if maxPasses < lastRank ns (firstDeclared blocks) then
    [.outOfPasses maxPasses ((cutOff ns (firstDeclared blocks) maxPasses).map (qualify ·.id))]
  else []

theorem failures_pin_eq : (pin ns maxPasses qualify blocks).failures =
    (laterDeclared blocks).map (fun id => .duplicate (qualify id)) ++
      causes ns qualify blocks ++ overrun ns qualify maxPasses blocks := by
  rw [failures_pin,diagnoseAll_stranded (nodup_ids_firstDeclared blocks)]
  rfl

variable {ns maxPasses qualify blocks}

theorem mem_overrun {f : Failure} : f ∈ overrun ns qualify maxPasses blocks ↔
    maxPasses < lastRank ns (firstDeclared blocks) ∧ f = .outOfPasses maxPasses
      ((cutOff ns (firstDeclared blocks) maxPasses).map (qualify ·.id)) := by
  simp [overrun]

theorem mem_causes {f : Failure} :
    f ∈ causes ns qualify blocks ↔ ∃ b ∈ stranded ns (firstDeclared blocks),
      cause ns (firstDeclared blocks) qualify b = some f := by
  simp [causes]

theorem kind_of_mem_causes {f : Failure} (h : f ∈ causes ns qualify blocks) :
    (∃ id target, f = .missingTarget id target) ∨ (∃ members, f = .cycle members) ∨
      ∃ id target, f = .unplacedTarget id target := by
  obtain ⟨b,_,hf⟩ := mem_causes.mp h
  by_cases ht : b.attachTo.target ∈ ids (firstDeclared blocks)
  · cases hc : cycleThrough ns (firstDeclared blocks) b.id with
    | some members =>
      rw [cause_of_cycle ht hc] at hf
      split at hf
      · exact Or.inr (Or.inl ⟨_,(Option.some.inj hf).symm⟩)
      · cases hf
    | none =>
      rw [cause_of_not_onCycle ht (cycleThrough_eq_none_iff.mp hc)] at hf
      exact Or.inr (Or.inr ⟨_,_,(Option.some.inj hf).symm⟩)
  · rw [cause_of_undeclared ht] at hf
    exact Or.inl ⟨_,_,(Option.some.inj hf).symm⟩

/-- A failure of one of the three kinds of causes is the cause of a stranded block. -/
theorem mem_failures_pin_iff {f : Failure} (hdup : ∀ name, f ≠ .duplicate name)
    (hout : f.isOutOfPasses = false) :
    f ∈ (pin ns maxPasses qualify blocks).failures ↔ f ∈ causes ns qualify blocks := by
  have hover : f ∉ overrun ns qualify maxPasses blocks := by
    intro hf
    obtain ⟨_,rfl⟩ := mem_overrun.mp hf
    cases hout
  have hlater : f ∉ (laterDeclared blocks).map fun id => Failure.duplicate (qualify id) := by
    intro hf
    obtain ⟨id,_,rfl⟩ := List.mem_map.mp hf
    exact hdup _ rfl
  simp [failures_pin_eq,hover,hlater]

theorem missingTarget_mem_pin_iff (hq : Function.Injective qualify) {id target : String} :
    Failure.missingTarget (qualify id) target ∈ (pin ns maxPasses qualify blocks).failures ↔
      AttachedTo ns (firstDeclared blocks) id target ∧ target ∉ ids blocks := by
  have hd := nodup_ids_firstDeclared blocks
  rw [mem_failures_pin_iff (by simp) rfl,mem_causes,← mem_ids_firstDeclared]
  simp only [cause_eq_missingTarget_iff]
  constructor
  · rintro ⟨b,hb,ht,hname,rfl⟩
    obtain rfl := hq hname
    exact ⟨attachedTo_of_stranded hd hb,ht⟩
  · rintro ⟨hatt,ht⟩
    have hg : ¬ Grounded ns (firstDeclared blocks) id :=
      hatt.grounded_iff.not.mpr fun hg => ht hg.mem_ids
    obtain ⟨b,hb,rfl,rfl⟩ := hatt.exists_stranded hg
    exact ⟨b,hb,ht,rfl,rfl⟩

theorem unplacedTarget_mem_pin_iff (hq : Function.Injective qualify) {id target : String} :
    Failure.unplacedTarget (qualify id) target ∈ (pin ns maxPasses qualify blocks).failures ↔
      AttachedTo ns (firstDeclared blocks) id target ∧ target ∈ ids blocks ∧
        ¬ OnCycle ns (firstDeclared blocks) id ∧ ¬ Grounded ns (firstDeclared blocks) id := by
  have hd := nodup_ids_firstDeclared blocks
  rw [mem_failures_pin_iff (by simp) rfl,mem_causes,← mem_ids_firstDeclared]
  simp only [cause_eq_unplacedTarget_iff]
  constructor
  · rintro ⟨b,hb,⟨ht,hno⟩,hname,rfl⟩
    obtain rfl := hq hname
    exact ⟨attachedTo_of_stranded hd hb,ht,hno,(mem_stranded.mp hb).2⟩
  · rintro ⟨hatt,ht,hno,hg⟩
    obtain ⟨b,hb,rfl,rfl⟩ := hatt.exists_stranded hg
    exact ⟨b,hb,⟨ht,hno⟩,rfl,rfl⟩

theorem cycle_mem_pin_iff {names : List String} :
    Failure.cycle names ∈ (pin ns maxPasses qualify blocks).failures ↔
      ∃ b ∈ firstDeclared blocks, ∃ members,
        cycleThrough ns (firstDeclared blocks) b.id = some members ∧
          (∀ x ∈ members, position (firstDeclared blocks) b.id ≤
            position (firstDeclared blocks) x) ∧ members.map qualify = names := by
  have hd := nodup_ids_firstDeclared blocks
  rw [mem_failures_pin_iff (by simp) rfl,mem_causes]
  simp only [cause_eq_cycle_iff]
  constructor
  · rintro ⟨b,hb,_,members,hc,hfirst,hnames⟩
    exact ⟨b,(mem_stranded.mp hb).1,members,hc,hfirst,hnames⟩
  · rintro ⟨b,hb,members,hc,hfirst,hnames⟩
    have hcycle : OnCycle ns (firstDeclared blocks) b.id := isSome_cycleThrough_iff.mp ⟨_,hc⟩
    have hb := mem_stranded.mpr ⟨hb,hcycle.not_grounded⟩
    exact ⟨b,hb,target_mem_ids_of_onCycle hd hb hcycle,members,hc,hfirst,hnames⟩

/-- The ids named by the failures that are cycles are those on a cycle. -/
theorem exists_cycle_mem_pin_iff (hq : Function.Injective qualify) {id : String} :
    (∃ names, Failure.cycle names ∈ (pin ns maxPasses qualify blocks).failures ∧
      qualify id ∈ names) ↔ OnCycle ns (firstDeclared blocks) id := by
  simp only [cycle_mem_pin_iff]
  constructor
  · rintro ⟨_,⟨b,_,members,hc,_,rfl⟩,hid⟩
    have hcycle : OnCycle ns (firstDeclared blocks) b.id := isSome_cycleThrough_iff.mp ⟨_,hc⟩
    have hid : id ∈ members := (List.mem_map_of_injective hq).mp hid
    exact hcycle.of_leadsTo ((mem_cycleThrough_iff hc).mp hid)
  · intro h
    obtain ⟨b,hb,hlead,hfirst⟩ := h.exists_first
    obtain ⟨members,hc⟩ := isSome_cycleThrough_iff.mpr (h.of_leadsTo hlead)
    have hid : id ∈ members := (mem_cycleThrough_iff hc).mpr (h.leadsTo_back hlead)
    exact ⟨_,⟨b,hb,members,hc,fun x hx => hfirst x ((mem_cycleThrough_iff hc).mp hx),rfl⟩,
      List.mem_map_of_mem hid⟩

/-- A cycle is told from its first declared member on. -/
theorem first_lt_of_cycle_mem_pin {names : List String}
    (h : Failure.cycle names ∈ (pin ns maxPasses qualify blocks).failures) :
    ∃ first rest, names = (first :: rest).map qualify ∧ ∀ x ∈ rest,
      position (firstDeclared blocks) first < position (firstDeclared blocks) x := by
  obtain ⟨b,hb,members,hc,hfirst,rfl⟩ := cycle_mem_pin_iff.mp h
  have hwalk := cycleThrough_eq_some_iff.mp hc
  obtain ⟨rest,rfl⟩ : ∃ rest, members = b.id :: rest := by
    cases hwalk <;> exact ⟨_,rfl⟩
  refine ⟨b.id,rest,rfl,fun x hx => ?_⟩
  have hne : b.id ≠ x := fun he => (List.nodup_cons.mp hwalk.nodup).1 (he ▸ hx)
  have hle := hfirst x (List.mem_cons_of_mem _ hx)
  have hpos : position (firstDeclared blocks) b.id ≠ position (firstDeclared blocks) x :=
    fun he => hne (position_inj (mem_ids_of_mem hb) he)
  omega

/-! ### Every id once -/

theorem flatMap_entities_causes : (causes ns qualify blocks).flatMap Failure.entities =
    ((stranded ns (firstDeclared blocks)).flatMap (tells ns (firstDeclared blocks))).map
      qualify := by
  have hd := nodup_ids_firstDeclared blocks
  rw [causes,List.filterMap_eq_flatMap_toList,List.flatMap_assoc,List.map_flatMap]
  exact List.flatMap_congr fun b hb => entities_cause hd hb

theorem flatMap_entities_overrun : (overrun ns qualify maxPasses blocks).flatMap Failure.entities =
    (ids (cutOff ns (firstDeclared blocks) maxPasses)).map qualify := by
  unfold overrun
  split
  · simp [Failure.entities,ids]
  · rename_i hle
    simp [cutOff_eq_nil_iff.mpr (Nat.le_of_not_lt hle)]

/-- The ids of a table are those ranked within the bound, those stranded and those cut off. -/
theorem perm_ids : ((ids table).filter (RankedWithin ns table maxPasses ·) ++
    (ids (stranded ns table) ++ ids (cutOff ns table maxPasses))).Perm (ids table) := by
  let grounded (id : String) : Bool := Grounded ns table id
  let within (id : String) : Bool := RankedWithin ns table maxPasses id
  have hwithin : (ids table).filter within = ((ids table).filter grounded).filter within := by
    rw [List.filter_filter]
    refine List.filter_congr fun id _ => ?_
    rw [Bool.eq_iff_iff]
    simpa [grounded,within] using RankedWithin.grounded
  have hcut : ids (cutOff ns table maxPasses) =
      ((ids table).filter grounded).filter fun id => !within id := by
    rw [ids_cutOff,List.filter_filter]
    simp [grounded,within,Bool.and_comm]
  have hstranded : ids (stranded ns table) = (ids table).filter fun id => !grounded id := by
    rw [← ids_filter]
    simp [stranded,grounded]
  have hrest := List.filter_append_perm grounded (ids table)
  have hsplit := List.filter_append_perm within ((ids table).filter grounded)
  rw [← hwithin,← hcut] at hsplit
  rw [← hstranded] at hrest
  refine (List.Perm.append_left _ List.perm_append_comm).trans ?_
  rw [← List.append_assoc]
  exact (hsplit.append_right _).trans hrest

/-- The ids placed, those told by the causes and those cut off are all the ids, once each. -/
theorem perm_named (hd : (ids table).Nodup) :
    ((ids table).filter (RankedWithin ns table maxPasses ·) ++
      ((stranded ns table).flatMap (tells ns table) ++ ids (cutOff ns table maxPasses))).Perm
        (ids table) := by
  refine List.Perm.trans (List.Perm.append_left _ ?_) perm_ids
  exact (perm_flatMap_tells hd).append_right _

theorem isOutOfPasses_of_mem_causes {f : Failure} (h : f ∈ causes ns qualify blocks) :
    f.isOutOfPasses = false := by
  rw [causes,← diagnoseAll_stranded (nodup_ids_firstDeclared blocks)] at h
  exact isOutOfPasses_of_mem_diagnoseAll h

theorem outOfPasses_mem_pin_iff {passes : Nat} {remaining : List String} :
    Failure.outOfPasses passes remaining ∈ (pin ns maxPasses qualify blocks).failures ↔
      Failure.outOfPasses passes remaining ∈ overrun ns qualify maxPasses blocks := by
  have hcauses : Failure.outOfPasses passes remaining ∉ causes ns qualify blocks :=
    fun h => Bool.noConfusion (isOutOfPasses_of_mem_causes h)
  simp [failures_pin_eq,hcauses]

/-- The ids named at the end of the passes are grounded but have no place. -/
theorem exists_outOfPasses_mem_pin_iff (hq : Function.Injective qualify) {id : String} :
    (∃ passes remaining, Failure.outOfPasses passes remaining ∈
        (pin ns maxPasses qualify blocks).failures ∧ qualify id ∈ remaining) ↔
      Grounded ns (firstDeclared blocks) id ∧
        id ∉ (pin ns maxPasses qualify blocks).rects.map (·.1) := by
  have hcut : id ∈ ids (cutOff ns (firstDeclared blocks) maxPasses) ↔
      Grounded ns (firstDeclared blocks) id ∧
        id ∉ (pin ns maxPasses qualify blocks).rects.map (·.1) := by
    rw [keys_pin,ids_cutOff,List.mem_filter,List.mem_filter,decide_eq_true_eq,decide_eq_true_eq]
    constructor
    · rintro ⟨_,hg,hno⟩
      exact ⟨hg,fun hin => hno hin.2⟩
    · rintro ⟨hg,hno⟩
      exact ⟨hg.mem_ids,hg,fun hin => hno ⟨hg.mem_ids,hin⟩⟩
  rw [← hcut,← List.mem_map_of_injective hq,← flatMap_entities_overrun]
  simp only [outOfPasses_mem_pin_iff,List.mem_flatMap]
  constructor
  · rintro ⟨passes,remaining,hf,hid⟩
    exact ⟨_,hf,hid⟩
  · rintro ⟨f,hf,hid⟩
    obtain ⟨_,rfl⟩ := mem_overrun.mp hf
    exact ⟨_,_,hf,hid⟩

theorem head?_entities_causes_sublist : ((causes ns qualify blocks).map (·.entities.head?)).Sublist
    ((ids (firstDeclared blocks)).map fun id => some (qualify id)) := by
  have hsub : (ids (stranded ns (firstDeclared blocks))).Sublist (ids (firstDeclared blocks)) :=
    List.filter_sublist.map _
  refine List.Sublist.trans ?_ (hsub.map _)
  rw [causes]
  induction stranded ns (firstDeclared blocks) with
  | nil => simp
  | cons b rest ih =>
    rw [ids_cons,List.map_cons,List.filterMap_cons]
    split
    · exact ih.cons _
    · rename_i f hf
      rw [List.map_cons,head?_entities_of_cause hf]
      exact ih.cons_cons _

/-- The failures of a pinning as an account of its blocks. -/
structure Account (ns : Namespace α) (qualify : String → String) (blocks : List (Block α))
    (result : Pinning α) (causes overrun : List Failure) : Prop where
  /-- Repeated ids come first, and what ran out of passes comes last. -/
  failures : result.failures =
    (laterDeclared blocks).map (fun id => .duplicate (qualify id)) ++ causes ++ overrun
  repeated : ∀ id, (laterDeclared blocks).count id = (ids blocks).count id - 1
  /-- Every declared id has a place or is named by one of the other failures, and only once. -/
  once : (result.rects.map (fun p => qualify p.1) ++
    (causes ++ overrun).flatMap Failure.entities).Perm ((ids (firstDeclared blocks)).map qualify)
  /-- The causes stand in the order of the blocks that they are told under. -/
  order : (causes.map (·.entities.head?)).Sublist
    ((ids (firstDeclared blocks)).map fun id => some (qualify id))
  last : (∀ f ∈ causes, f.isOutOfPasses = false) ∧
    (overrun = [] ∨ ∃ passes remaining, remaining ≠ [] ∧ overrun = [.outOfPasses passes remaining])
  missing : ∀ id target, Failure.missingTarget (qualify id) target ∈ result.failures ↔
    AttachedTo ns (firstDeclared blocks) id target ∧ target ∉ ids blocks
  unplaced : ∀ id target, Failure.unplacedTarget (qualify id) target ∈ result.failures ↔
    AttachedTo ns (firstDeclared blocks) id target ∧ target ∈ ids blocks ∧
      ¬ OnCycle ns (firstDeclared blocks) id ∧ ¬ Grounded ns (firstDeclared blocks) id
  cyclic : ∀ id, (∃ names, Failure.cycle names ∈ result.failures ∧ qualify id ∈ names) ↔
    OnCycle ns (firstDeclared blocks) id
  /-- A cycle is told under its first member. -/
  first : ∀ names, Failure.cycle names ∈ result.failures →
    ∃ first rest, names = (first :: rest).map qualify ∧ ∀ x ∈ rest,
      position (firstDeclared blocks) first < position (firstDeclared blocks) x
  late : ∀ id, (∃ passes remaining, Failure.outOfPasses passes remaining ∈ result.failures ∧
      qualify id ∈ remaining) ↔
    Grounded ns (firstDeclared blocks) id ∧ id ∉ result.rects.map (·.1)

/-- Nothing is lost in a pinning: every declared id has a place or is named by one failure, of the
kind that fits its attachments. -/
theorem pin_accounts (hq : Function.Injective qualify) :
    ∃ causes overrun, Account ns qualify blocks (pin ns maxPasses qualify blocks) causes overrun :=
  ⟨causes ns qualify blocks,overrun ns qualify maxPasses blocks,{
    failures := failures_pin_eq ns qualify maxPasses blocks
    repeated := count_laterDeclared blocks
    once := by
      have hd := nodup_ids_firstDeclared blocks
      have hkeys : (pin ns maxPasses qualify blocks).rects.map (fun p => qualify p.1) =
          ((ids (firstDeclared blocks)).filter
            (RankedWithin ns (firstDeclared blocks) maxPasses ·)).map qualify := by
        rw [← keys_pin ns maxPasses qualify,List.map_map]
        rfl
      rw [hkeys,List.flatMap_append,flatMap_entities_causes,flatMap_entities_overrun,
        ← List.map_append,← List.map_append]
      exact (perm_named hd).map qualify
    order := head?_entities_causes_sublist
    last := by
      refine ⟨fun f => isOutOfPasses_of_mem_causes,?_⟩
      unfold overrun
      split
      · rename_i hlt
        have hne : cutOff ns (firstDeclared blocks) maxPasses ≠ [] :=
          fun he => absurd (cutOff_eq_nil_iff.mp he) (by omega)
        exact Or.inr ⟨_,_,by simpa using hne,rfl⟩
      · exact Or.inl rfl
    missing := fun _ _ => missingTarget_mem_pin_iff hq
    unplaced := fun _ _ => unplacedTarget_mem_pin_iff hq
    cyclic := fun _ => exists_cycle_mem_pin_iff hq
    first := fun _ => first_lt_of_cycle_mem_pin
    late := fun _ => exists_outOfPasses_mem_pin_iff hq }⟩

/-- A block of unit size at the top left corner of its target. -/
def unitBlock (id target : String) : Block Rat :=
  ⟨id,none,1,1,.topLeft,⟨target,.topLeft⟩,(0,0)⟩

/-- A chain that is declared backwards, a cycle with a tail, a lost target and a repeated id. -/
def tangle : List (Block Rat) :=
  [unitBlock "far" "mid",unitBlock "mid" "near",unitBlock "near" originName,
    unitBlock "tail" "left",unitBlock "left" "right",unitBlock "right" "left",
    unitBlock "lost" "nowhere",unitBlock "near" "left"]

theorem pin_accounts_tangle :
    (pin .rooms 2 id tangle).failures =
      [.duplicate "near",.unplacedTarget "tail" "left",.cycle ["left","right"],
        .missingTarget "lost" "nowhere",.outOfPasses 2 ["far"]] ∧
    Function.Injective (id : String → String) ∧
    ∃ causes overrun, Account .rooms id tangle (pin .rooms 2 id tangle) causes overrun :=
  ⟨by decide +kernel,Function.injective_id,pin_accounts Function.injective_id⟩

end Pin

end Pinning
end Blueprint
