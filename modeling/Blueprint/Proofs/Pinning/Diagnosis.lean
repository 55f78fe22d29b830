import Blueprint.Proofs.Pinning.Cycle
import Blueprint.Proofs.Pinning.Reach

/-!
The causes of what cannot be placed. The causes are told block by block, and a cycle once, while the
members told are remembered. The result is the same as if every stranded block were judged by
itself, with a cycle told by the member that is declared first.
-/

namespace Blueprint
namespace Pinning

variable {α : Type} {ns : Namespace α} {table : List (Block α)}

theorem position_getElem (hd : (ids table).Nodup) {k : Nat} (hk : k < table.length) :
    position table table[k].id = k := by
  have hidx := hd.idxOf_getElem k (by simpa using hk)
  simpa [position,ids] using hidx

/-- The blocks of a table stand in the order of their positions. -/
theorem pairwise_position (hd : (ids table).Nodup) :
    table.Pairwise fun a b => position table a.id < position table b.id := by
  rw [List.pairwise_iff_getElem]
  intro i j hi hj hij
  rwa [position_getElem hd hi,position_getElem hd hj]

/-- The ids told are the members of all cycles through the blocks gone by. -/
def Told (ns : Namespace α) (table : List (Block α)) (passed : List (Block α))
    (told : List String) : Prop :=
  ∀ id, id ∈ told ↔ ∃ a ∈ passed, OnCycle ns table a.id ∧ LeadsTo ns table a.id id

theorem Told.nil : Told ns table [] [] := by
  intro id
  simp

/-- What is told grows by the members of the cycle through the next block. -/
theorem Told.snoc {passed : List (Block α)} {told told' : List String} {b : Block α}
    (h : Told ns table passed told)
    (hb : ∀ id, id ∈ told' ↔ id ∈ told ∨ (OnCycle ns table b.id ∧ LeadsTo ns table b.id id)) :
    Told ns table (passed ++ [b]) told' := by
  intro id
  rw [hb id,h id]
  simp only [List.mem_append,List.mem_singleton,or_and_right,exists_or,exists_eq_left]

/-- A block whose cycle is told already adds nothing to tell. -/
theorem Told.of_mem {passed : List (Block α)} {told : List String} {b : Block α}
    (h : Told ns table passed told) (hb : b.id ∈ told) : Told ns table (passed ++ [b]) told := by
  obtain ⟨a,ha,hcycle,hlead⟩ := (h b.id).mp hb
  refine h.snoc fun id => (or_iff_left_of_imp fun hid => ?_).symm
  exact (h id).mpr ⟨a,ha,hcycle,hlead.trans hid.2⟩

theorem Told.of_not_onCycle {passed : List (Block α)} {told : List String} {b : Block α}
    (h : Told ns table passed told) (hb : ¬ OnCycle ns table b.id) :
    Told ns table (passed ++ [b]) told :=
  h.snoc fun _ => (or_iff_left fun hid => hb hid.1).symm

theorem attachedTo_of_not_grounded (hd : (ids table).Nodup) {b : Block α} (hb : b ∈ table)
    (hg : ¬ Grounded ns table b.id) : AttachedTo ns table b.id b.attachTo.target := by
  have hdecl := declared?_of_mem hd hb
  refine ⟨b,hdecl,?_,rfl⟩
  exact fun hr => hg (.reserved ⟨b,hdecl,hr⟩)

theorem OnCycle.target_mem_ids {id target : String} (h : OnCycle ns table id)
    (hatt : AttachedTo ns table id target) : target ∈ ids table :=
  (h.of_leadsTo (.single hatt)).mem_ids

theorem OnCycle.not_grounded {id : String} (h : OnCycle ns table id) : ¬ Grounded ns table id :=
  fun hg => hg.not_onCycle h

/-! ### The causes -/

variable [Scalar α] {qualify : String → String}

/-- Why a block that is not grounded has no place, if the block is the one to tell it. -/
def cause (ns : Namespace α) (table : List (Block α)) (qualify : String → String)
    (b : Block α) : Option Failure :=
  if b.attachTo.target ∉ ids table then
    some (.missingTarget (qualify b.id) b.attachTo.target)
  else
    match cycleThrough ns table b.id with
    | some members =>
      if ∀ x ∈ members, position table b.id ≤ position table x then
        some (.cycle (members.map qualify))
      else none
    | none => some (.unplacedTarget (qualify b.id) b.attachTo.target)

theorem cause_of_undeclared {b : Block α} (h : b.attachTo.target ∉ ids table) :
    cause ns table qualify b = some (.missingTarget (qualify b.id) b.attachTo.target) := by
  simp [cause,h]

theorem cause_of_not_onCycle {b : Block α} (h : b.attachTo.target ∈ ids table)
    (hno : ¬ OnCycle ns table b.id) :
    cause ns table qualify b = some (.unplacedTarget (qualify b.id) b.attachTo.target) := by
  simp [cause,h,cycleThrough_eq_none_iff.mpr hno]

theorem cause_of_cycle {b : Block α} {members : List String} (h : b.attachTo.target ∈ ids table)
    (hc : cycleThrough ns table b.id = some members) :
    cause ns table qualify b =
      if ∀ x ∈ members, position table b.id ≤ position table x then
        some (.cycle (members.map qualify))
      else none := by
  simp only [cause,h,not_true,if_false,hc]

theorem mem_stranded {b : Block α} :
    b ∈ stranded ns table ↔ b ∈ table ∧ ¬ Grounded ns table b.id := by
  simp [stranded]

theorem Told.append {passed : List (Block α)} {told members : List String} {b : Block α}
    (h : Told ns table passed told) (hb : cycleThrough ns table b.id = some members) :
    Told ns table (passed ++ [b]) (told ++ members) := by
  have hcycle : OnCycle ns table b.id := isSome_cycleThrough_iff.mp ⟨members,hb⟩
  refine h.snoc fun id => ?_
  rw [List.mem_append,mem_cycleThrough_iff hb,and_iff_right hcycle]

/-- The members of the cycles told before a stranded block are told by blocks that stand before it,
and all of these were gone by. -/
theorem Told.mem_iff (hd : (ids table).Nodup) {passed rest : List (Block α)} {told : List String}
    {b : Block α} {members : List String} (hsplit : stranded ns table = passed ++ b :: rest)
    (h : Told ns table passed told) (hb : cycleThrough ns table b.id = some members) :
    b.id ∈ told ↔ ¬ ∀ x ∈ members, position table b.id ≤ position table x := by
  have hcycle : OnCycle ns table b.id := isSome_cycleThrough_iff.mp ⟨members,hb⟩
  have horder : (passed ++ b :: rest).Pairwise
      fun a c => position table a.id < position table c.id := by
    rw [← hsplit]
    exact (pairwise_position hd).filter _
  rw [List.pairwise_append] at horder
  obtain ⟨_,hrest,hpassed⟩ := horder
  rw [h b.id]
  constructor
  · rintro ⟨a,ha,hacycle,hlead⟩ hfirst
    have hmem : a.id ∈ members := (mem_cycleThrough_iff hb).mpr (hacycle.leadsTo_back hlead)
    have hle := hfirst a.id hmem
    have hlt := hpassed a ha b List.mem_cons_self
    omega
  · -- a member declared earlier is stranded like the block itself, so it stands in `passed`
    intro hnot
    simp only [not_forall,Nat.not_le] at hnot
    obtain ⟨x,hx,hlt⟩ := hnot
    have hlead := (mem_cycleThrough_iff hb).mp hx
    have hxcycle := hcycle.of_leadsTo hlead
    obtain ⟨a,ha,rfl⟩ := mem_ids.mp hxcycle.mem_ids
    have hstranded : a ∈ passed ++ b :: rest :=
      hsplit ▸ mem_stranded.mpr ⟨ha,hxcycle.not_grounded⟩
    rcases List.mem_append.mp hstranded with ha | ha
    · exact ⟨a,ha,hxcycle,hcycle.leadsTo_back hlead⟩
    · rcases List.mem_cons.mp ha with rfl | ha
      · omega
      · have hgt := (List.pairwise_cons.mp hrest).1 a ha
        omega

theorem classify_of_attachedTo (hd : (ids table).Nodup) {b : Block α} (hb : b ∈ table)
    (hg : ¬ Grounded ns table b.id) :
    ns.classify b.attachTo.target = .block b.attachTo.target := by
  have hdecl := declared?_of_mem hd hb
  exact Namespace.classify_eq_block.mpr ⟨fun hr => hg (.reserved ⟨b,hdecl,hr⟩),rfl⟩

/-- One stranded block is told its own cause, and what is told grows by its cycle. -/
theorem Told.diagnose (hd : (ids table).Nodup) {passed rest : List (Block α)} {told : List String}
    {b : Block α} (hsplit : stranded ns table = passed ++ b :: rest)
    (h : Told ns table passed told) :
    ∃ told', Pinning.diagnose ns table qualify told b = (cause ns table qualify b,told') ∧
      Told ns table (passed ++ [b]) told' := by
  obtain ⟨hb,hg⟩ : b ∈ table ∧ ¬ Grounded ns table b.id := mem_stranded.mp (hsplit ▸ by simp)
  have hatt := attachedTo_of_not_grounded hd hb hg
  have hc := classify_of_attachedTo hd hb hg
  by_cases hdecl : b.attachTo.target ∈ ids table
  · have hsome : declared? table b.attachTo.target ≠ none := fun h => declared?_eq_none.mp h hdecl
    cases hcycle : cycleThrough ns table b.id with
    | none =>
      have hno : ¬ OnCycle ns table b.id := cycleThrough_eq_none_iff.mp hcycle
      have hfresh : b.id ∉ told := by
        rw [h b.id]
        rintro ⟨a,_,hacycle,hlead⟩
        exact hno (hacycle.of_leadsTo hlead)
      exact ⟨told,by simp [Pinning.diagnose,cause_of_not_onCycle hdecl hno,hc,hsome,hfresh,hcycle],
        h.of_not_onCycle hno⟩
    | some members =>
      by_cases htold : b.id ∈ told
      · have hlate := (h.mem_iff hd hsplit hcycle).mp htold
        rw [cause_of_cycle hdecl hcycle,if_neg hlate]
        exact ⟨told,by simp [Pinning.diagnose,hc,hsome,htold],h.of_mem htold⟩
      · have hfirst := not_not.mp (mt (h.mem_iff hd hsplit hcycle).mpr htold)
        rw [cause_of_cycle hdecl hcycle,if_pos hfirst]
        exact ⟨told ++ members,by simp [Pinning.diagnose,hc,hsome,htold,hcycle],h.append hcycle⟩
  · have hno : ¬ OnCycle ns table b.id := fun hcycle => hdecl (hcycle.target_mem_ids hatt)
    exact ⟨told,by simp [Pinning.diagnose,cause_of_undeclared hdecl,hc,declared?_eq_none,hdecl],
      h.of_not_onCycle hno⟩

theorem diagnoseAll_eq_filterMap_of_told (hd : (ids table).Nodup) {passed rest : List (Block α)}
    {told : List String} (hsplit : stranded ns table = passed ++ rest)
    (h : Told ns table passed told) :
    diagnoseAll ns table qualify told rest = rest.filterMap (cause ns table qualify) := by
  induction rest generalizing passed told with
  | nil => rfl
  | cons b rest ih =>
    obtain ⟨told',hstep,htold⟩ := h.diagnose hd hsplit
    have hsplit' : stranded ns table = (passed ++ [b]) ++ rest := by simpa using hsplit
    rw [diagnoseAll,hstep,List.filterMap_cons]
    cases cause ns table qualify b <;> simp [ih hsplit' htold]

/-- Told block by block, the causes of the stranded blocks are those of each by itself. -/
theorem diagnoseAll_stranded (hd : (ids table).Nodup) :
    diagnoseAll ns table qualify [] (stranded ns table) =
      (stranded ns table).filterMap (cause ns table qualify) :=
  diagnoseAll_eq_filterMap_of_told hd rfl Told.nil

end Pinning
end Blueprint
