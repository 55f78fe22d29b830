import Blueprint.Proofs.Pinning.Isolation

/-!
The order of declaration. With as many passes as there are blocks everything that can be placed is
placed, so the order in which distinct blocks are declared decides only in which order they are told
and with which member a cycle begins.
-/

namespace Blueprint

/-- The failure, with a cycle told from no member in particular. -/
def Failure.unrooted : Failure → Failure ⊕ Cycle String
  | cycle members => .inr members
  | failure => .inl failure

theorem Failure.unrooted_cycle (members : List String) :
    (Failure.cycle members).unrooted = .inr members := rfl

theorem Failure.eq_of_unrooted_eq_inl {f g : Failure} (h : f.unrooted = .inl g) : f = g := by
  cases f <;> simp_all [unrooted]

namespace Pinning

variable {α : Type} {ns : Namespace α} {table table' : List (Block α)}

theorem closedIn_of_perm (h : table'.Perm table) (hd : (ids table).Nodup) :
    ClosedIn ns table' ns table := closedIn_of_declared? (declared?_of_perm h hd)

/-! ### Passes enough -/

theorem Ranked.le_length_of_walk {id : String} {n : Nat} {path : List String}
    (hwalk : Walk ns table (AtReserved ns table) id path) (h : Ranked ns table id n) :
    n ≤ path.length := by
  induction hwalk generalizing n with
  | done _ hr => exact (h.unique (.reserved hr)).le
  | step hgo hatt _ ih =>
    cases h with
    | reserved hr => exact absurd hr hgo
    | earlier hatt' _ hn =>
      obtain rfl := hatt.unique hatt'
      exact Nat.le_succ_of_le (ih hn)
    | later hatt' _ hn =>
      obtain rfl := hatt.unique hatt'
      exact Nat.succ_le_succ (ih hn)

/-- No rank is larger than the number of blocks. -/
theorem Ranked.le_length {id : String} {n : Nat} (h : Ranked ns table id n) : n ≤ table.length := by
  obtain ⟨path,hwalk⟩ := h.grounded.exists_walk
  exact (h.le_length_of_walk hwalk).trans hwalk.length_le

theorem rankedWithin_iff_grounded {most : Nat} (h : table.length ≤ most) {id : String} :
    RankedWithin ns table most id ↔ Grounded ns table id := by
  constructor
  · exact RankedWithin.grounded
  · intro hg
    obtain ⟨n,hn⟩ := hg.exists_ranked
    exact ⟨n,hn.le_length.trans h,hn⟩

variable [Scalar α]

theorem lastRank_le_length (ns : Namespace α) (table : List (Block α)) :
    lastRank ns table ≤ table.length := by
  by_cases h : lastRank ns table = 0
  · omega
  · obtain ⟨id,hid⟩ := exists_ranked_lastRank h
    exact hid.le_length

theorem overrun_eq_nil {maxPasses : Nat} {qualify : String → String} {blocks : List (Block α)}
    (h : blocks.length ≤ maxPasses) : overrun ns qualify maxPasses blocks = [] := by
  have hlast := lastRank_le_length ns (firstDeclared blocks)
  have hle := (firstDeclared_sublist blocks).length_le
  exact if_neg (by omega)

/-! ### The causes in another order -/

theorem perm_stranded (h : table'.Perm table) (hd : (ids table).Nodup) :
    (stranded ns table').Perm (stranded ns table) := by
  have hclosed : ClosedIn ns table' ns table := closedIn_of_perm h hd
  have hcongr : stranded ns table' = table'.filter fun b => ¬ Grounded ns table b.id :=
    List.filter_congr fun b hb => by simp [hclosed.grounded_iff (mem_ids_of_mem hb)]
  rw [hcongr]
  exact h.filter _

/-- What is told of one block in another order is the same, cycles apart. -/
theorem filter_not_isCycle_cause {qualify : String → String} (h : table'.Perm table)
    (hd : (ids table).Nodup) {b : Block α} (hb : b ∈ stranded ns table') :
    (cause ns table' qualify b).filter (fun f => !f.isCycle) =
      (cause ns table qualify b).filter fun f => !f.isCycle := by
  have hclosed : ClosedIn ns table' ns table := closedIn_of_perm h hd
  have hd' : (ids table').Nodup := (h.map _).nodup_iff.mpr hd
  have hatt := attachedTo_of_stranded hd' hb
  by_cases hcycle : OnCycle ns table' b.id
  · have hnone {t : List (Block α)} (ht : b.attachTo.target ∈ ids t)
        (hc : OnCycle ns t b.id) :
        (cause ns t qualify b).filter (fun f => !f.isCycle) = none := by
      obtain ⟨members,hm⟩ := isSome_cycleThrough_iff.mpr hc
      rw [cause_of_cycle ht hm]
      split <;> simp [Failure.isCycle]
    have ht := hcycle.target_mem_ids hatt
    rw [hnone ht hcycle,
      hnone ((hclosed.target_mem_iff hatt).mp ht) ((hclosed.onCycle_iff hatt.mem_ids).mp hcycle)]
  · rw [hclosed.cause_eq_of_not_onCycle rfl rfl hatt hcycle]

omit [Scalar α] in
theorem isCycle_iff_of_perm (h : table'.Perm table) (hd : (ids table).Nodup) {c : Cycle String} :
    IsCycle ns table' c ↔ IsCycle ns table c := by
  have hatt : AttachedTo ns table' = AttachedTo ns table := by
    funext id target
    rw [AttachedTo,AttachedTo,declared?_of_perm h hd]
  constructor
  · rintro ⟨hne,hnodup,hchain⟩
    exact ⟨hne,hnodup,hatt ▸ hchain⟩
  · rintro ⟨hne,hnodup,hchain⟩
    exact ⟨hne,hnodup,hatt ▸ hchain⟩

theorem nodup_toldCycles (hd : (ids table).Nodup) :
    ((toldCycles ns table).map Cycle.ofList).Nodup := by
  have hnodup : (toldCycles ns table).Nodup := by
    refine (pairwise_toldCycles hd).imp_of_mem ?_
    rintro a b ha _ hlt rfl
    obtain ⟨id,hid⟩ := mem_toldCycles.mp ha
    obtain ⟨rest,rfl⟩ := head_of_cycleThrough (toldCycle?_eq_some_iff.mp hid).1
    exact Nat.lt_irrefl _ (hlt id (by simp) id (by simp))
  refine hnodup.map_on fun a ha b hb hab => ?_
  exact (isCycle_of_mem_toldCycles ha).existsUnique_told.unique ⟨ha,rfl⟩ ⟨hb,hab.symm⟩

theorem mem_map_toldCycles_iff {c : Cycle String} :
    c ∈ (toldCycles ns table).map Cycle.ofList ↔
      IsCycle ns table c := by
  rw [List.mem_map]
  constructor
  · rintro ⟨members,hmem,rfl⟩
    exact isCycle_of_mem_toldCycles hmem
  · intro h
    obtain ⟨members,hmem,_⟩ := h.existsUnique_told
    exact ⟨members,hmem⟩

/-- The cycles told in another order are the same, up to the member that they are told from. -/
theorem perm_toldCycles (h : table'.Perm table) (hd : (ids table).Nodup) :
    ((toldCycles ns table').map Cycle.ofList).Perm
      ((toldCycles ns table).map Cycle.ofList) := by
  have hd' : (ids table').Nodup := (h.map _).nodup_iff.mpr hd
  refine (List.perm_ext_iff_of_nodup (nodup_toldCycles hd') (nodup_toldCycles hd)).mpr fun c => ?_
  rw [mem_map_toldCycles_iff,mem_map_toldCycles_iff,isCycle_iff_of_perm h hd]

variable {maxPasses : Nat} {qualify : String → String} {blocks blocks' : List (Block α)}

/-- The causes of a list are its cycles and the rest. -/
theorem perm_causes (hd : (ids blocks).Nodup) : (causes ns qualify blocks).Perm
    ((toldCycles ns blocks).map (fun members => .cycle (members.map qualify)) ++
      (stranded ns blocks).filterMap fun b =>
        (cause ns blocks qualify b).filter fun f => !f.isCycle) := by
  have hcycles := filter_isCycle_causes ns qualify blocks
  have hrest : (causes ns qualify blocks).filter (fun f => !f.isCycle) =
      (stranded ns (firstDeclared blocks)).filterMap fun b =>
        (cause ns (firstDeclared blocks) qualify b).filter fun f => !f.isCycle := by
    rw [causes,List.filter_filterMap]
  rw [firstDeclared_of_nodup hd] at hcycles hrest
  rw [← hcycles,← hrest]
  exact (List.filter_append_perm _ _).symm

theorem perm_unrooted_causes (h : blocks'.Perm blocks) (hd : (ids blocks).Nodup) :
    ((causes ns qualify blocks').map Failure.unrooted).Perm
      ((causes ns qualify blocks).map Failure.unrooted) := by
  have hd' : (ids blocks').Nodup := (h.map _).nodup_iff.mpr hd
  have hturn (bs : List (Block α)) :
      ((toldCycles ns bs).map fun members => Failure.cycle (members.map qualify)).map
          Failure.unrooted =
        ((toldCycles ns bs).map Cycle.ofList).map
          fun c => .inr (c.map qualify) := by
    simp [Failure.unrooted_cycle]
  have hrest : ((stranded ns blocks').filterMap fun b =>
        (cause ns blocks' qualify b).filter fun f => !f.isCycle).Perm
      ((stranded ns blocks).filterMap fun b =>
        (cause ns blocks qualify b).filter fun f => !f.isCycle) := by
    rw [List.filterMap_congr fun b hb => filter_not_isCycle_cause h hd hb]
    exact (perm_stranded h hd).filterMap _
  refine ((perm_causes hd').map _).trans (List.Perm.trans ?_ ((perm_causes hd).map _).symm)
  rw [List.map_append,List.map_append,hturn,hturn]
  exact ((perm_toldCycles h hd).map _).append (hrest.map _)

/-! ### The outcome in another order -/

/-- With passes enough, a list in another order is given the same places. -/
theorem lookup_pin_of_perm (h : blocks'.Perm blocks) (hd : (ids blocks).Nodup)
    (hmost : blocks.length ≤ maxPasses) (id : String) :
    (pin ns maxPasses qualify blocks').rects.lookup id =
      (pin ns maxPasses qualify blocks).rects.lookup id := by
  have hd' : (ids blocks').Nodup := (h.map _).nodup_iff.mpr hd
  have hclosed : ClosedIn ns blocks' ns blocks := closedIn_of_perm h hd
  by_cases hid : id ∈ ids blocks'
  · refine lookup_pin_eq (fun name _ => declared?_of_perm h hd name) (fun name hname => ?_) hid
    rw [mem_keys_pin,mem_keys_pin,firstDeclared_of_nodup hd,firstDeclared_of_nodup hd',
      rankedWithin_iff_grounded hmost,rankedWithin_iff_grounded (h.length_eq.trans_le hmost)]
    exact hclosed.grounded_iff hname
  · have hnone {bs : List (Block α)} (hbs : id ∉ ids bs) :
        (pin ns maxPasses qualify bs).rects.lookup id = none := by
      rw [lookup_pin_eq_none_iff,mem_keys_pin]
      exact fun hr => hbs (mem_ids_firstDeclared.mp hr.grounded.mem_ids)
    rw [hnone hid,hnone (mt (h.map _).mem_iff.mpr hid)]

theorem perm_rects_pin (h : blocks'.Perm blocks) (hd : (ids blocks).Nodup)
    (hmost : blocks.length ≤ maxPasses) : (pin ns maxPasses qualify blocks').rects.Perm
      (pin ns maxPasses qualify blocks).rects := by
  refine (List.perm_ext_iff_of_nodup (nodup_keys_pin ns maxPasses qualify blocks').of_map
    (nodup_keys_pin ns maxPasses qualify blocks).of_map).mpr fun p => ?_
  rw [← mem_pin_iff,← mem_pin_iff,lookup_pin_of_perm h hd hmost]

/-- With passes enough, distinct blocks fail for causes only. -/
theorem failures_pin_eq_causes (hd : (ids blocks).Nodup) (hmost : blocks.length ≤ maxPasses) :
    (pin ns maxPasses qualify blocks).failures = causes ns qualify blocks := by
  rw [failures_pin_eq,laterDeclared_of_nodup hd,overrun_eq_nil hmost]
  simp

theorem perm_failures_pin (h : blocks'.Perm blocks) (hd : (ids blocks).Nodup)
    (hmost : blocks.length ≤ maxPasses) :
    ((pin ns maxPasses qualify blocks').failures.map Failure.unrooted).Perm
      ((pin ns maxPasses qualify blocks).failures.map Failure.unrooted) := by
  have hd' : (ids blocks').Nodup := (h.map _).nodup_iff.mpr hd
  rw [failures_pin_eq_causes hd hmost,failures_pin_eq_causes hd' (h.length_eq.trans_le hmost)]
  exact perm_unrooted_causes h hd

end Pinning
end Blueprint
