import Blueprint.Proofs.Pinning.Attachment

/-!
The searches along attachments. A search goes from state to state, and each of its steps meets one
more block of the table, so it has no more states than the table has blocks. It ends with the walk
to its goal, or, where there is no such walk, without one: behind a target that is declared nowhere,
or at the second visit of an id.
-/

namespace Blueprint
namespace Pinning

variable {α : Type} [Scalar α] {ns : Namespace α} {table : List (Block α)} {goal : Target α → Bool}

/-- The target of the block with an id is what a search is after. -/
def Arrives (ns : Namespace α) (table : List (Block α)) (goal : Target α → Bool) (id : String) :
    Prop :=
  ∃ target, attached? ns table id = some target ∧ goal target = true

/-- The states of a search: the ids met before, and the one that it is at. -/
inductive Visits (ns : Namespace α) (table : List (Block α)) (goal : Target α → Bool)
    (start : String) : List String → String → Prop
  | start : Visits ns table goal start [] start
  | onward {front : List String} {current next : String} :
      Visits ns table goal start front current →
      step ns table goal (front ++ [current]) current = .onward next →
      Visits ns table goal start (front ++ [current]) next

/-! ### One step -/

section Step

variable {met : List String} {current next : String}

theorem attachedTo_iff :
    AttachedTo ns table current next ↔ attached? ns table current = some (.block next) := by
  simp [AttachedTo,attached?]

theorem step_eq_arrived_iff :
    step ns table goal met current = .arrived ↔ Arrives ns table goal current := by
  unfold step Arrives
  cases attached? ns table current with
  | none => simp
  | some target =>
    by_cases hgoal : goal target = true
    · simp [hgoal]
    · cases target <;> simp [hgoal,ite_eq_iff]

/-- A search goes on from a block to its target, where that is declared and not met before. -/
theorem step_eq_onward_iff : step ns table goal met current = .onward next ↔
    ¬ Arrives ns table goal current ∧ AttachedTo ns table current next ∧
      next ∈ ids table ∧ next ∉ met := by
  rw [attachedTo_iff]
  unfold step Arrives
  cases attached? ns table current with
  | none => simp
  | some target =>
    by_cases hgoal : goal target = true
    · simp [hgoal]
    · cases target with
      | fixed => simp [hgoal]
      | block target =>
        have hopen : ((declared? table target).isNone || met.contains target) = false ↔
            target ∈ ids table ∧ target ∉ met := by
          simp [Option.isNone_eq_false_iff,isSome_declared?]
        by_cases hblocked : ((declared? table target).isNone || met.contains target) = false
        · have hfree := hopen.mp hblocked
          simp only [hblocked]
          grind
        · have hfree := mt hopen.mpr hblocked
          simp only [hblocked]
          grind

theorem step_eq_lost_iff : step ns table goal met current = .lost ↔
    ¬ Arrives ns table goal current ∧
      ∀ next, AttachedTo ns table current next → next ∈ ids table → next ∈ met := by
  cases hstep : step ns table goal met current with
  | arrived => simp [step_eq_arrived_iff.mp hstep]
  | onward next =>
    obtain ⟨_,hatt,hnext,hfresh⟩ := step_eq_onward_iff.mp hstep
    simpa using fun _ => ⟨next,hatt,hnext,hfresh⟩
  | lost =>
    have hgo : ¬ Arrives ns table goal current := fun harrives => by
      cases hstep.symm.trans (step_eq_arrived_iff.mpr harrives)
    refine ⟨fun _ => ⟨hgo,fun next hatt hnext => ?_⟩,fun _ => rfl⟩
    by_contra hfresh
    cases hstep.symm.trans (step_eq_onward_iff.mpr ⟨hgo,hatt,hnext,hfresh⟩)

end Step

/-! ### The states of a search -/

namespace Visits

variable {start : String} {front : List String} {current : String}

theorem mem_ids (h : Visits ns table goal start front current) (hstart : start ∈ ids table) :
    ∀ x ∈ front ++ [current], x ∈ ids table := by
  induction h with
  | start => simpa using hstart
  | onward _ hstep ih =>
    obtain ⟨_,_,hnext,_⟩ := step_eq_onward_iff.mp hstep
    simp only [List.forall_mem_append] at ih ⊢
    exact ⟨ih,by simpa using hnext⟩

/-- No id is met twice. -/
theorem nodup (h : Visits ns table goal start front current) : (front ++ [current]).Nodup := by
  induction h with
  | start => simp
  | onward _ hstep ih =>
    obtain ⟨_,_,_,hfresh⟩ := step_eq_onward_iff.mp hstep
    exact List.nodup_append.mpr ⟨ih,by simp,fun x hx y hy => by grind⟩

theorem length_le (h : Visits ns table goal start front current) (hstart : start ∈ ids table) :
    (front ++ [current]).length ≤ table.length := by
  rw [← length_ids table]
  exact (List.subperm_of_subset h.nodup (h.mem_ids hstart)).length_le

/-- A search goes on only from what is not attached to its goal. -/
theorem not_arrives (h : Visits ns table goal start front current) :
    ∀ x ∈ front, ¬ Arrives ns table goal x := by
  induction h with
  | start => simp
  | onward _ hstep ih =>
    obtain ⟨hgo,_⟩ := step_eq_onward_iff.mp hstep
    exact List.forall_mem_append.mpr ⟨ih,by simpa using hgo⟩

/-- A walk from where a search is continues the way that it has come. -/
theorem walk_append (h : Visits ns table goal start front current) {rest : List String}
    (hrest : Walk ns table (Arrives ns table goal) current rest) :
    Walk ns table (Arrives ns table goal) start (front ++ rest) := by
  induction h generalizing rest with
  | start => exact hrest
  | onward _ hstep ih =>
    obtain ⟨hgo,hatt,_⟩ := step_eq_onward_iff.mp hstep
    rw [List.append_assoc]
    exact ih (.step hgo hatt hrest)

/-- A walk from the start goes the way of a search. -/
theorem exists_rest (h : Visits ns table goal start front current) {path : List String}
    (hpath : Walk ns table (Arrives ns table goal) start path) :
    ∃ rest, Walk ns table (Arrives ns table goal) current rest ∧ path = front ++ rest := by
  induction h with
  | start => exact ⟨path,hpath,rfl⟩
  | onward _ hstep ih =>
    obtain ⟨hgo,hatt,_⟩ := step_eq_onward_iff.mp hstep
    obtain ⟨rest,hrest,rfl⟩ := ih
    cases hrest with
    | done _ hstop => exact absurd hstop hgo
    | step _ hatt' hrest => exact ⟨_,hatt.unique hatt' ▸ hrest,by simp⟩

/-- A search that gets lost is at a block from which no walk leads to the goal. -/
theorem not_walk_of_lost (h : Visits ns table goal start front current)
    (hlost : step ns table goal (front ++ [current]) current = .lost) {path : List String} :
    ¬ Walk ns table (Arrives ns table goal) start path := by
  intro hpath
  obtain ⟨hgo,hmet⟩ := step_eq_lost_iff.mp hlost
  obtain ⟨rest,hrest,rfl⟩ := h.exists_rest hpath
  cases hrest with
  | done _ hstop => exact hgo hstop
  | step _ hatt hrest =>
    have hdistinct := hpath.nodup
    rw [List.append_cons] at hdistinct
    exact List.disjoint_of_nodup_append hdistinct (hmet _ hatt hrest.head_mem_ids) hrest.head_mem

end Visits

/-! ### The outcome of a search -/

/-- A search comes to an end, and its last state tells the outcome. -/
theorem Visits.exists_last {start current : String} {front met : List String}
    (h : Visits ns table goal start front current) (hmet : met = front ++ [current]) :
    ∃ front' last, Visits ns table goal start front' last ∧
      (step ns table goal (front' ++ [last]) last = .arrived ∧
          follow ns table goal met current = some (front' ++ [last]) ∨
        step ns table goal (front' ++ [last]) last = .lost ∧
          follow ns table goal met current = none) := by
  induction met, current using follow.induct ns table goal generalizing front with
  | case1 met current harrived =>
    subst hmet
    exact ⟨front,current,h,Or.inl ⟨harrived,by rw [follow,harrived]⟩⟩
  | case2 met current hlost =>
    subst hmet
    exact ⟨front,current,h,Or.inr ⟨hlost,by rw [follow,hlost]⟩⟩
  | case3 met current next hstep ih =>
    subst hmet
    rw [follow,hstep]
    exact ih (.onward h hstep) rfl

theorem follow_eq_some_iff {start : String} {path : List String} :
    follow ns table goal [start] start = some path ↔
      Walk ns table (Arrives ns table goal) start path := by
  obtain ⟨front,last,hvisits,⟨harrived,hfollow⟩ | ⟨hlost,hfollow⟩⟩ :=
    (Visits.start : Visits ns table goal start [] start).exists_last
      (rfl : [start] = [] ++ [start])
  · have hstop := step_eq_arrived_iff.mp harrived
    have hlast : last ∈ ids table := by
      obtain ⟨_,htarget,_⟩ := hstop
      obtain ⟨b,hb,_⟩ := Option.map_eq_some_iff.mp htarget
      exact mem_ids_of_declared? hb
    have hwalk := hvisits.walk_append (.done hlast hstop)
    rw [hfollow,Option.some.injEq]
    exact ⟨fun he => he ▸ hwalk,hwalk.unique⟩
  · rw [hfollow]
    exact ⟨nofun,fun hwalk => absurd hwalk (hvisits.not_walk_of_lost hlost)⟩

/-! ### The two searches -/

/-- The block with an id is attached to something whose rectangle is known. -/
def TargetKnown (ns : Namespace α) (table : List (Block α)) (places : Places α) (id : String) :
    Prop :=
  ∃ b, declared? table id = some b ∧ (targetRect? ns places b).isSome

theorem arrives_knows_iff {places : Places α} {id : String} :
    Arrives ns table places.knows id ↔ TargetKnown ns table places id := by
  have hknows (b : Block α) : places.knows (ns.classify b.attachTo.target) =
      (targetRect? ns places b).isSome := by
    unfold targetRect?
    cases ns.classify b.attachTo.target <;> rfl
  simp [Arrives,TargetKnown,attached?,hknows]

theorem arrives_isBlock_iff {start id : String} :
    Arrives ns table (isBlock start) id ↔ AttachedTo ns table id start := by
  rw [attachedTo_iff,Arrives]
  constructor
  · rintro ⟨target,htarget,hgoal⟩
    cases target with
    | fixed => cases hgoal
    | block target => rw [htarget,eq_of_beq hgoal]
  · intro h
    exact ⟨_,h,beq_self_eq_true start⟩

theorem leadsToPlace_iff {places : Places α} {id : String} :
    leadsToPlace ns table places id = true ↔
      ∃ path, Walk ns table (TargetKnown ns table places) id path := by
  have hgoal : Arrives ns table places.knows = TargetKnown ns table places :=
    funext fun _ => propext arrives_knows_iff
  rw [leadsToPlace,Option.isSome_iff_exists]
  simp only [follow_eq_some_iff,hgoal]

theorem cycleThrough_eq_some_iff {id : String} {members : List String} :
    cycleThrough ns table id = some members ↔
      Walk ns table (AttachedTo ns table · id) id members := by
  have hgoal : Arrives ns table (isBlock id) = (AttachedTo ns table · id) :=
    funext fun _ => propext arrives_isBlock_iff
  rw [cycleThrough,follow_eq_some_iff,hgoal]

end Pinning
end Blueprint
