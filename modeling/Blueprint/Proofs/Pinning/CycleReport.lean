import Blueprint.Proofs.Pinning.Account
import Mathlib.Data.List.Cycle

/-!
The cycles that a pinning tells, against the cycles of its attachments. A cycle as such has no first
member; the failure that tells it starts with the member that is declared first. Main statement: the
failures that tell of cycles and the cycles of the attachments are in one-to-one correspondence.
-/

namespace Blueprint

/-- Whether a failure tells of a cycle. -/
def Failure.isCycle : Failure → Bool
  | cycle _ => true
  | _ => false

namespace Pinning

variable {α : Type} {ns : Namespace α} {table : List (Block α)}

/-- A cycle of the attachments, from no member in particular: the members are distinct, and each is
attached to the next one. -/
structure IsCycle (ns : Namespace α) (table : List (Block α)) (c : Cycle String) : Prop where
  ne_nil : c ≠ Cycle.nil
  nodup : c.Nodup
  chain : c.Chain (AttachedTo ns table)

/-! ### Walks that come round -/

theorem Walk.eq_head {stop : String → Prop} {id x : String} {rest : List String}
    (h : Walk ns table stop id (x :: rest)) : x = id := by
  cases h <;> rfl

/-- A walk up to a goal is a chain of attachments to the goal that does not meet it before. -/
theorem walk_iff_isChain {goal id : String} {rest : List String} :
    Walk ns table (AttachedTo ns table · goal) id (id :: rest) ↔
      goal ∉ rest ∧ (id :: (rest ++ [goal])).IsChain (AttachedTo ns table) := by
  induction rest generalizing id with
  | nil =>
    constructor
    · intro h
      cases h with
      | done _ hatt => simpa using hatt
      | step _ _ hwalk => exact absurd hwalk.head_mem List.not_mem_nil
    · rintro ⟨_,hchain⟩
      have hatt : AttachedTo ns table id goal := by simpa using hchain
      exact .done hatt.mem_ids hatt
  | cons x rest ih =>
    rw [List.cons_append,List.isChain_cons_cons,List.mem_cons,not_or]
    constructor
    · intro h
      cases h with
      | step hgo hatt hwalk =>
        obtain rfl := hwalk.eq_head
        obtain ⟨hrest,hchain⟩ := ih.mp hwalk
        exact ⟨⟨fun he => hgo (he ▸ hatt),hrest⟩,hatt,hchain⟩
    · rintro ⟨⟨hx,hrest⟩,hatt,hchain⟩
      exact .step (fun hgoal => hx (hgoal.unique hatt)) hatt (ih.mpr ⟨hrest,hchain⟩)

/-- A cycle, entered at one of its members, is the walk from this member back to it. -/
theorem isCycle_coe_iff {id : String} {rest : List String} :
    IsCycle ns table (id :: rest : List String) ↔
      Walk ns table (AttachedTo ns table · id) id (id :: rest) := by
  constructor
  · intro h
    have hnodup := List.nodup_cons.mp (Cycle.nodup_coe_iff.mp h.nodup)
    exact walk_iff_isChain.mpr ⟨hnodup.1,(Cycle.chain_coe_cons _ _ _).mp h.chain⟩
  · intro h
    exact ⟨by simp,h.nodup,(walk_iff_isChain.mp h).2⟩

variable [Scalar α]

theorem head_of_cycleThrough {id : String} {members : List String}
    (h : cycleThrough ns table id = some members) : ∃ rest, members = id :: rest := by
  cases cycleThrough_eq_some_iff.mp h <;> exact ⟨_,rfl⟩

theorem isCycle_of_cycleThrough {id : String} {members : List String}
    (h : cycleThrough ns table id = some members) : IsCycle ns table members := by
  obtain ⟨rest,rfl⟩ := head_of_cycleThrough h
  exact isCycle_coe_iff.mpr (cycleThrough_eq_some_iff.mp h)

/-- The search from any member of a cycle finds this cycle. -/
theorem IsCycle.exists_cycleThrough {c : Cycle String} (h : IsCycle ns table c) {x : String}
    (hx : x ∈ c) :
    ∃ members, cycleThrough ns table x = some members ∧ (members : Cycle String) = c := by
  induction c using Quotient.inductionOn' with
  | _ l
  obtain ⟨pre,post,rfl⟩ := List.append_of_mem (Cycle.mem_coe_iff.mp hx)
  have hturn : ((x :: (post ++ pre) : List String) : Cycle String) = (pre ++ x :: post : List _) :=
    Cycle.coe_eq_coe.mpr (List.isRotated_append (l := x :: post))
  exact ⟨_,cycleThrough_eq_some_iff.mpr (isCycle_coe_iff.mp (hturn ▸ h)),hturn⟩

theorem IsCycle.onCycle {c : Cycle String} (h : IsCycle ns table c) {x : String} (hx : x ∈ c) :
    OnCycle ns table x := by
  obtain ⟨members,hc,_⟩ := h.exists_cycleThrough hx
  exact isSome_cycleThrough_iff.mp ⟨members,hc⟩

omit [Scalar α] in
theorem IsCycle.exists_mem {c : Cycle String} (h : IsCycle ns table c) : ∃ x, x ∈ c := by
  induction c with
  | nil => exact absurd rfl h.ne_nil
  | cons x l => exact ⟨x,by simp⟩

/-! ### The cycles that are told -/

/-- The cycle that a block tells: the one through it, if no member is declared earlier. -/
def toldCycle? (ns : Namespace α) (table : List (Block α)) (id : String) : Option (List String) :=
  (cycleThrough ns table id).filter fun members =>
    ∀ x ∈ members, position table id ≤ position table x

/-- All cycles that are told, in the order of the blocks that tell them. -/
def toldCycles (ns : Namespace α) (table : List (Block α)) : List (List String) :=
  (ids table).filterMap (toldCycle? ns table)

theorem toldCycle?_eq_some_iff {id : String} {members : List String} :
    toldCycle? ns table id = some members ↔ cycleThrough ns table id = some members ∧
      ∀ x ∈ members, position table id ≤ position table x := by
  simp [toldCycle?,Option.filter_eq_some_iff]

theorem toldCycle?_of_not_onCycle {id : String} (h : ¬ OnCycle ns table id) :
    toldCycle? ns table id = none := by
  simp [toldCycle?,cycleThrough_eq_none_iff.mpr h]

theorem mem_toldCycles {members : List String} :
    members ∈ toldCycles ns table ↔ ∃ id, toldCycle? ns table id = some members := by
  simp only [toldCycles,List.mem_filterMap]
  constructor
  · rintro ⟨id,_,h⟩
    exact ⟨id,h⟩
  · rintro ⟨id,h⟩
    exact ⟨id,(cycleThrough_eq_some_iff.mp (toldCycle?_eq_some_iff.mp h).1).head_mem_ids,h⟩

theorem isCycle_of_mem_toldCycles {members : List String} (h : members ∈ toldCycles ns table) :
    IsCycle ns table members := by
  obtain ⟨id,hid⟩ := mem_toldCycles.mp h
  exact isCycle_of_cycleThrough (toldCycle?_eq_some_iff.mp hid).1

/-- Every cycle is told by its first member, and by no other. -/
theorem IsCycle.existsUnique_told {c : Cycle String} (h : IsCycle ns table c) :
    ∃! members, members ∈ toldCycles ns table ∧ (members : Cycle String) = c := by
  obtain ⟨x,hx⟩ := h.exists_mem
  obtain ⟨b,_,hlead,hfirst⟩ := (h.onCycle hx).exists_first
  obtain ⟨members,hc,rfl⟩ := h.exists_cycleThrough hx
  have hb : b.id ∈ (members : Cycle String) :=
    Cycle.mem_coe_iff.mpr ((mem_cycleThrough_iff hc).mpr hlead)
  obtain ⟨told,htold,hturn⟩ := h.exists_cycleThrough hb
  have hbfirst : toldCycle? ns table b.id = some told :=
    toldCycle?_eq_some_iff.mpr ⟨htold,fun y hy => hfirst y ((mem_cycleThrough_iff htold).mp hy)⟩
  refine ⟨told,⟨mem_toldCycles.mpr ⟨b.id,hbfirst⟩,hturn⟩,?_⟩
  rintro other ⟨hother,hturn'⟩
  obtain ⟨id,hid⟩ := mem_toldCycles.mp hother
  obtain ⟨hthrough,hidfirst⟩ := toldCycle?_eq_some_iff.mp hid
  -- both blocks are members of the one cycle, and each stands first in it
  have hperm : other.Perm told := (Cycle.coe_eq_coe.mp (hturn'.trans hturn.symm)).perm
  have hb' : b.id ∈ other :=
    hperm.mem_iff.mpr ((mem_cycleThrough_iff htold).mpr Relation.ReflTransGen.refl)
  have hid' : id ∈ told :=
    hperm.mem_iff.mp ((mem_cycleThrough_iff hthrough).mpr Relation.ReflTransGen.refl)
  have hle := hidfirst b.id hb'
  have hge := (toldCycle?_eq_some_iff.mp hbfirst).2 id hid'
  have hmem : id ∈ ids table := (cycleThrough_eq_some_iff.mp hthrough).head_mem_ids
  obtain rfl := position_inj hmem (Nat.le_antisymm hle hge)
  exact Option.some.inj (hthrough.symm.trans htold)

/-- The cycles are told in the order of their first members. -/
theorem pairwise_toldCycles (hd : (ids table).Nodup) : (toldCycles ns table).Pairwise
    fun a b => ∀ x ∈ a.head?, ∀ y ∈ b.head?, position table x < position table y := by
  have horder : (ids table).Pairwise fun s t => position table s < position table t :=
    List.pairwise_map.mpr (pairwise_position hd)
  rw [toldCycles,List.pairwise_filterMap]
  refine horder.imp ?_
  intro s t hst a ha b hb x hx y hy
  obtain ⟨rest,rfl⟩ := head_of_cycleThrough (toldCycle?_eq_some_iff.mp ha).1
  obtain ⟨rest',rfl⟩ := head_of_cycleThrough (toldCycle?_eq_some_iff.mp hb).1
  obtain rfl : s = x := by simpa using hx
  obtain rfl : t = y := by simpa using hy
  exact hst

/-! ### The failures that tell them -/

theorem filter_isCycle_cause {qualify : String → String} {b : Block α} (hd : (ids table).Nodup)
    (hb : b ∈ stranded ns table) : (cause ns table qualify b).filter Failure.isCycle =
      (toldCycle? ns table b.id).map fun members => .cycle (members.map qualify) := by
  cases hc : cycleThrough ns table b.id with
  | some members =>
    have hcycle : OnCycle ns table b.id := isSome_cycleThrough_iff.mp ⟨members,hc⟩
    rw [cause_of_cycle (target_mem_ids_of_onCycle hd hb hcycle) hc,toldCycle?,hc]
    by_cases hfirst : ∀ x ∈ members, position table b.id ≤ position table x
    · rw [if_pos hfirst,Option.filter_some_pos rfl,Option.filter_some_pos (by simpa using hfirst)]
      rfl
    · rw [if_neg hfirst,Option.filter_some_neg (by simpa using hfirst)]
      rfl
  | none =>
    have hno := cycleThrough_eq_none_iff.mp hc
    rw [toldCycle?_of_not_onCycle hno]
    by_cases ht : b.attachTo.target ∈ ids table
    · simp [cause_of_not_onCycle ht hno,Failure.isCycle]
    · simp [cause_of_undeclared ht,Failure.isCycle]

variable (ns) (maxPasses : Nat) (qualify : String → String) (blocks : List (Block α))

theorem filter_isCycle_causes : (causes ns qualify blocks).filter Failure.isCycle =
    (toldCycles ns (firstDeclared blocks)).map fun members => .cycle (members.map qualify) := by
  have hd := nodup_ids_firstDeclared blocks
  rw [causes,List.filter_filterMap,toldCycles,List.map_filterMap,ids,List.filterMap_map,
    List.filterMap_congr fun b hb => filter_isCycle_cause hd hb,stranded,List.filterMap_filter]
  refine List.filterMap_congr fun b _ => ?_
  split
  · rfl
  · rename_i hg
    have hno : ¬ OnCycle ns (firstDeclared blocks) b.id := fun hcycle => hg (by
      simpa using hcycle.not_grounded)
    simp [toldCycle?_of_not_onCycle hno]

theorem filter_isCycle_failures_pin :
    (pin ns maxPasses qualify blocks).failures.filter Failure.isCycle =
      (toldCycles ns (firstDeclared blocks)).map fun members => .cycle (members.map qualify) := by
  have hdup : ((laterDeclared blocks).map fun id => Failure.duplicate (qualify id)).filter
      Failure.isCycle = [] := by simp [Failure.isCycle]
  have hover : (overrun ns qualify maxPasses blocks).filter Failure.isCycle = [] := by
    unfold overrun
    split <;> simp [Failure.isCycle]
  rw [failures_pin_eq,List.filter_append,List.filter_append,hdup,hover,filter_isCycle_causes,
    List.nil_append,List.append_nil]

/-- The failures of a pinning that tell of cycles, by the ids of the members, against the cycles of
its attachments. -/
structure CycleReport (ns : Namespace α) (qualify : String → String) (blocks : List (Block α))
    (result : Pinning α) (told : List (List String)) : Prop where
  failures : result.failures.filter Failure.isCycle =
    told.map fun members => .cycle (members.map qualify)
  /-- What is told goes once round: each member is attached to the next and the last one to the
  first, which is declared before the others. -/
  round : ∀ members ∈ told, ∃ first rest, members = first :: rest ∧ members.Nodup ∧
    (members ++ [first]).IsChain (AttachedTo ns (firstDeclared blocks)) ∧
      ∀ x ∈ rest, position (firstDeclared blocks) first < position (firstDeclared blocks) x
  /-- Every cycle is told once, and nothing else is. -/
  correspond : ∀ c : Cycle String, IsCycle ns (firstDeclared blocks) c ↔
    ∃! members, members ∈ told ∧ (members : Cycle String) = c
  order : told.Pairwise fun a b => ∀ x ∈ a.head?, ∀ y ∈ b.head?,
    position (firstDeclared blocks) x < position (firstDeclared blocks) y
  /-- No member of a cycle has a place. -/
  unplaced : ∀ c : Cycle String, IsCycle ns (firstDeclared blocks) c → ∀ x ∈ c,
    x ∉ result.rects.map (·.1)

/-- A pinning tells every cycle of its attachments, once and from its first member on. -/
theorem pin_cycleReport : CycleReport ns qualify blocks (pin ns maxPasses qualify blocks)
    (toldCycles ns (firstDeclared blocks)) where
  failures := filter_isCycle_failures_pin ns maxPasses qualify blocks
  round members hmem := by
    obtain ⟨id,hid⟩ := mem_toldCycles.mp hmem
    obtain ⟨hc,hfirst⟩ := toldCycle?_eq_some_iff.mp hid
    obtain ⟨rest,rfl⟩ := head_of_cycleThrough hc
    have hwalk := cycleThrough_eq_some_iff.mp hc
    refine ⟨id,rest,rfl,hwalk.nodup,(walk_iff_isChain.mp hwalk).2,fun x hx => ?_⟩
    have hne : id ≠ x := fun he => (List.nodup_cons.mp hwalk.nodup).1 (he ▸ hx)
    have hpos := mt (position_inj hwalk.head_mem_ids) hne
    exact Nat.lt_of_le_of_ne (hfirst x (List.mem_cons_of_mem _ hx)) hpos
  correspond c := by
    constructor
    · exact IsCycle.existsUnique_told
    · rintro ⟨members,⟨hmem,rfl⟩,_⟩
      exact isCycle_of_mem_toldCycles hmem
  order := pairwise_toldCycles (nodup_ids_firstDeclared blocks)
  unplaced c hc x hx := by
    rw [keys_pin,List.mem_filter,decide_eq_true_eq]
    exact fun hin => (hc.onCycle hx).not_grounded hin.2.grounded

end Pinning
end Blueprint
