import Blueprint.Proofs.Pinning.Passes
import Blueprint.Proofs.Pinning.Search

/-!
What a pinning places, and what it leaves for a later pass. The ids placed are those whose rank is
within the bound on the passes; the ids cut off are the other grounded ones.
-/

namespace Blueprint

/-- Whether a failure tells of blocks that more passes would have placed. -/
def Failure.isOutOfPasses : Failure → Bool
  | outOfPasses _ _ => true
  | _ => false

namespace Pinning

variable {α : Type} [Scalar α] {ns : Namespace α} {table : List (Block α)} {places : Places α}

/-! ### The places in the order of declaration -/

/-- The places of some blocks, in the order of the blocks. -/
def arranged (places : Places α) (blocks : List (Block α)) : Places α :=
  blocks.filterMap fun b => (places.lookup b.id).map (b.id,·)

omit [Scalar α] in
theorem keys_arranged (places : Places α) (blocks : List (Block α)) :
    (arranged places blocks).map (·.1) = (ids blocks).filter (places.has ·) := by
  induction blocks with
  | nil => rfl
  | cons b blocks ih =>
    rw [arranged] at ih ⊢
    cases hb : places.lookup b.id with
    | none => simp [hb,ih,Places.has]
    | some rect => simp [hb,ih,Places.has]

omit [Scalar α] in
theorem lookup_arranged {blocks : List (Block α)} {id : String} :
    (arranged places blocks).lookup id = if id ∈ ids blocks then places.lookup id else none := by
  induction blocks with
  | nil => rfl
  | cons b blocks ih =>
    have hcons : arranged places (b :: blocks) =
        ((places.lookup b.id).map (b.id,·)).toList ++ arranged places blocks := by
      cases hb : places.lookup b.id <;> simp [arranged,hb]
    rw [hcons,List.lookup_append,ih]
    by_cases hid : id = b.id
    · subst hid
      cases places.lookup b.id <;> simp
    · have hne : (id == b.id) = false := by simpa using hid
      cases places.lookup b.id <;> simp [hid,List.lookup_cons,hne]

omit [Scalar α] in
theorem lookup_of_mem (hd : (places.map (·.1)).Nodup) {p : String × Rect α} (hp : p ∈ places) :
    places.lookup p.1 = some p.2 := by
  induction places with
  | nil => simp at hp
  | cons q places ih =>
    rw [List.map_cons,List.nodup_cons] at hd
    rcases List.mem_cons.mp hp with rfl | hp
    · rw [List.lookup_cons,beq_self_eq_true]
    · have hne : (p.1 == q.1) = false := by
        rw [beq_eq_false_iff_ne]
        exact fun he => hd.1 (he ▸ List.mem_map.mpr ⟨p,hp,rfl⟩)
      rw [List.lookup_cons,hne]
      exact ih hd.2 hp

omit [Scalar α] in
/-- Where ids are distinct, looking up and being a member are the same. -/
theorem lookup_eq_some_iff_mem (hd : (places.map (·.1)).Nodup) {id : String} {rect : Rect α} :
    places.lookup id = some rect ↔ (id,rect) ∈ places := by
  constructor
  · intro h
    obtain ⟨pre,post,hsplit,_⟩ := List.lookup_eq_some_iff.mp h
    simp [hsplit]
  · exact lookup_of_mem hd

/-! ### The leftovers -/

/-- A search that starts at a grounded id, and no other, leads to something placed. -/
theorem leadsToPlace_iff_grounded (hg : ∀ id, places.has id = true → Grounded ns table id)
    {id : String} :
    leadsToPlace ns table places id = true ↔ Grounded ns table id := by
  rw [leadsToPlace_iff]
  constructor
  · rintro ⟨path,hwalk⟩
    induction hwalk with
    | done _ hknown =>
      obtain ⟨b,hb,hsome⟩ := hknown
      cases hc : ns.classify b.attachTo.target with
      | fixed rect => exact .reserved ⟨b,hb,(Namespace.classify_eq_fixed.mp hc).1⟩
      | block target =>
        obtain ⟨hne,rfl⟩ := Namespace.classify_eq_block.mp hc
        have hplaced : places.has b.attachTo.target = true := by
          simpa [targetRect?,hc,Places.has] using hsome
        exact .attached ⟨b,hb,hne,rfl⟩ (hg _ hplaced)
    | step _ hatt _ ih => exact .attached hatt ih
  · intro h
    induction h with
    | reserved hr =>
      obtain ⟨b,hb,hbr⟩ := hr
      have hc := Namespace.classify_eq_fixed.mpr ⟨hbr,rfl⟩
      exact ⟨_,.done (mem_ids_of_declared? hb) ⟨b,hb,by simp [targetRect?,hc]⟩⟩
    | @attached id target hatt _ ih =>
      by_cases hknown : TargetKnown ns table places id
      · exact ⟨_,.done hatt.mem_ids hknown⟩
      · obtain ⟨path,hwalk⟩ := ih
        exact ⟨_,.step hknown hatt hwalk⟩

theorem isOutOfPasses_of_mem_diagnose {qualify : String → String} {told : List String}
    {b : Block α} {f : Failure}
    (h : f ∈ (diagnose ns table qualify told b).1) : f.isOutOfPasses = false := by
  unfold diagnose at h
  split at h
  · simp at h
  · split at h
    · obtain rfl : _ = f := by simpa using h
      rfl
    · split at h
      · simp at h
      · split at h <;>
        · obtain rfl : _ = f := by simpa using h
          rfl

/-- No cause of a stranded block is the end of the passes. -/
theorem isOutOfPasses_of_mem_diagnoseAll {qualify : String → String} {told : List String}
    {rest : List (Block α)} {f : Failure}
    (h : f ∈ diagnoseAll ns table qualify told rest) : f.isOutOfPasses = false := by
  induction rest generalizing told with
  | nil => simp [diagnoseAll] at h
  | cons b rest ih =>
    rw [diagnoseAll] at h
    rcases List.mem_append.mp h with h | h
    · exact isOutOfPasses_of_mem_diagnose (Option.mem_toList.mp h)
    · exact ih h

/-! ### The outcome of a pinning -/

theorem targetRect?_congr {places' : Places α} (h : ∀ id, places.lookup id = places'.lookup id)
    (b : Block α) : targetRect? ns places b = targetRect? ns places' b := by
  unfold targetRect?
  split
  · rfl
  · exact h _

/-- The blocks that more passes would place. -/
def cutOff (ns : Namespace α) (table : List (Block α)) (maxPasses : Nat) : List (Block α) :=
  table.filter fun b => Grounded ns table b.id ∧ ¬ RankedWithin ns table maxPasses b.id

/-- The blocks that no number of passes would place. -/
def stranded (ns : Namespace α) (table : List (Block α)) : List (Block α) :=
  table.filter fun b => ¬ Grounded ns table b.id

theorem ids_cutOff {maxPasses : Nat} : ids (cutOff ns table maxPasses) =
    (ids table).filter fun id =>
      Grounded ns table id ∧ ¬ RankedWithin ns table maxPasses id :=
  ids_filter table fun id => Grounded ns table id ∧ ¬ RankedWithin ns table maxPasses id

theorem cutOff_eq_nil_iff {maxPasses : Nat} :
    cutOff ns table maxPasses = [] ↔ lastRank ns table ≤ maxPasses := by
  simp only [cutOff,List.filter_eq_nil_iff,decide_eq_true_eq]
  constructor
  · intro hnone
    by_contra hlt
    have hne : lastRank ns table ≠ 0 := by omega
    obtain ⟨id,hid⟩ := exists_ranked_lastRank hne
    obtain ⟨b,hb,rfl⟩ := mem_ids.mp hid.mem_ids
    exact hnone b hb ⟨hid.grounded,not_rankedWithin_of_lt hid (by omega)⟩
  · rintro hle b _ ⟨hg,hno⟩
    obtain ⟨n,hn⟩ := hg.exists_ranked
    have hlast := hn.le_lastRank
    exact hno ⟨n,by omega,hn⟩

/-- The blocks without a place that lead to one are those cut off; the others are stranded. -/
theorem partition_unplaced {maxPasses : Nat}
    (h : ∀ id, places.has id = true ↔ RankedWithin ns table maxPasses id) :
    (table.filter fun b => !places.has b.id).partition
        (fun b => leadsToPlace ns table places b.id) =
      (cutOff ns table maxPasses,stranded ns table) := by
  have hg (id : String) : places.has id = true → Grounded ns table id :=
    fun hp => ((h id).mp hp).grounded
  have hleads (id : String) :
      leadsToPlace ns table places id = true ↔ Grounded ns table id :=
    leadsToPlace_iff_grounded hg
  rw [List.partition_eq_filter_filter,List.filter_filter,List.filter_filter]
  refine Prod.ext (List.filter_congr fun b _ => ?_) (List.filter_congr fun b _ => ?_)
  · rw [Bool.eq_iff_iff]
    simp [hleads,← h b.id]
  · rw [Bool.eq_iff_iff]
    have himp : ¬ Grounded ns table b.id → places.has b.id = false :=
      fun hno => Bool.eq_false_iff.mpr fun hp => hno (hg _ hp)
    have hstuck : leadsToPlace ns table places b.id = false ↔
        ¬ Grounded ns table b.id := by rw [← hleads,Bool.not_eq_true]
    simpa [hstuck] using himp

variable (ns) (maxPasses : Nat) (qualify : String → String) (blocks : List (Block α))

/-- The places of a pinning are found for the ids ranked within the bound. -/
theorem keys_pin : (pin ns maxPasses qualify blocks).rects.map (·.1) =
    (ids (firstDeclared blocks)).filter
      (RankedWithin ns (firstDeclared blocks) maxPasses ·) := by
  obtain ⟨_,hhas,_⟩ := runPasses_empty ns (nodup_ids_firstDeclared blocks) maxPasses
  refine (keys_arranged _ _).trans (List.filter_congr fun id _ => ?_)
  rw [Bool.eq_iff_iff,hhas,decide_eq_true_eq]

theorem lookup_pin (id : String) : (pin ns maxPasses qualify blocks).rects.lookup id =
    (runPasses ns (firstDeclared blocks) maxPasses []).1.lookup id := by
  obtain ⟨hs,_⟩ := runPasses_empty ns (nodup_ids_firstDeclared blocks) maxPasses
  refine lookup_arranged.trans ?_
  split
  · rfl
  · rename_i hid
    cases hl : (runPasses ns (firstDeclared blocks) maxPasses []).1.lookup id with
    | none => rfl
    | some rect => exact absurd (hs.subset (by simp [Places.has,hl])) hid

/-- Every place of a pinning is that of a first declaration, pinned to the place of its target. -/
theorem pinned_pin {id : String} {rect : Rect α}
    (h : (pin ns maxPasses qualify blocks).rects.lookup id = some rect) :
    ∃ b, declared? (firstDeclared blocks) id = some b ∧
      ∃ target, targetRect? ns (pin ns maxPasses qualify blocks).rects b = some target ∧
        rect = placeAt b (target.corner b.attachTo.corner) := by
  obtain ⟨hs,_⟩ := runPasses_empty ns (nodup_ids_firstDeclared blocks) maxPasses
  rw [lookup_pin] at h
  obtain ⟨b,hb,target,htarget,hrect⟩ := hs.pinned id rect h
  rw [← targetRect?_congr (lookup_pin ns maxPasses qualify blocks)] at htarget
  exact ⟨b,hb,target,htarget,hrect⟩

theorem nodup_keys_pin : ((pin ns maxPasses qualify blocks).rects.map (·.1)).Nodup := by
  rw [keys_pin]
  exact (nodup_ids_firstDeclared blocks).filter _

theorem passes_pin : (pin ns maxPasses qualify blocks).passes =
    min maxPasses (passesNeeded ns (firstDeclared blocks)) :=
  (runPasses_empty ns (nodup_ids_firstDeclared blocks) maxPasses).2.2

/-- The failures of a pinning: repeated ids, then the causes of what can never be placed, then what
the bound cut off. -/
theorem failures_pin : (pin ns maxPasses qualify blocks).failures =
    (laterDeclared blocks).map (fun id => .duplicate (qualify id)) ++
      diagnoseAll ns (firstDeclared blocks) qualify [] (stranded ns (firstDeclared blocks)) ++
      if maxPasses < lastRank ns (firstDeclared blocks) then
        [.outOfPasses maxPasses
          ((cutOff ns (firstDeclared blocks) maxPasses).map fun b => qualify b.id)]
      else [] := by
  obtain ⟨_,hhas,hcount⟩ := runPasses_empty ns (nodup_ids_firstDeclared blocks) maxPasses
  have hneed := lastRank_le_passesNeeded ns (firstDeclared blocks)
  have hcut : cutOff ns (firstDeclared blocks) maxPasses = [] ↔
      lastRank ns (firstDeclared blocks) ≤ maxPasses := cutOff_eq_nil_iff
  simp only [pin,partition_unplaced hhas,hcount,List.isEmpty_iff,hcut]
  by_cases hlt : maxPasses < lastRank ns (firstDeclared blocks)
  · have hmin : min maxPasses (passesNeeded ns (firstDeclared blocks)) = maxPasses := by omega
    simp [hlt,hmin]
  · simp [hlt,Nat.le_of_not_lt hlt]

/-- What ranks say of the outcome of a pinning. -/
structure Outcome (ns : Namespace α) (maxPasses : Nat) (qualify : String → String)
    (blocks : List (Block α)) (result : Pinning α) : Prop where
  /-- Every grounded id has one rank. -/
  ranked : ∀ id, Grounded ns (firstDeclared blocks) id ↔ ∃! n, Ranked ns (firstDeclared blocks) id n
  last : IsGreatest {n | n = 0 ∨ ∃ id, Ranked ns (firstDeclared blocks) id n}
    (lastRank ns (firstDeclared blocks))
  /-- The ids placed are those ranked within the bound, in the order of declaration. -/
  keys : result.rects.map (·.1) =
    (ids (firstDeclared blocks)).filter (RankedWithin ns (firstDeclared blocks) maxPasses ·)
  /-- Each is pinned to the returned rectangle of its target. -/
  pinned : ∀ p ∈ result.rects, ∃ b, declared? blocks p.1 = some b ∧
    ∃ target, targetRect? ns result.rects b = some target ∧
      p.2 = placeAt b (target.corner b.attachTo.corner)
  /-- The passes run up to the last rank, and one further if some block is not grounded. -/
  passes : result.passes = min maxPasses
    (if ∀ id ∈ ids (firstDeclared blocks), Grounded ns (firstDeclared blocks) id then
      lastRank ns (firstDeclared blocks)
    else lastRank ns (firstDeclared blocks) + 1)
  /-- Exactly if the bound comes before the last rank, one failure tells all grounded ids of a
  larger rank. -/
  late : result.failures.filter Failure.isOutOfPasses =
    if maxPasses < lastRank ns (firstDeclared blocks) then
      [.outOfPasses maxPasses (((ids (firstDeclared blocks)).filter fun id =>
        Grounded ns (firstDeclared blocks) id ∧
          ¬ RankedWithin ns (firstDeclared blocks) maxPasses id).map qualify)]
    else []

/-- The exact outcome of a pinning, by the ranks of its blocks. -/
theorem pin_by_rank : Outcome ns maxPasses qualify blocks (pin ns maxPasses qualify blocks) where
  ranked id := by
    constructor
    · intro hg
      obtain ⟨n,hn⟩ := hg.exists_ranked
      exact ⟨n,hn,fun m hm => hm.unique hn⟩
    · rintro ⟨n,hn,_⟩
      exact hn.grounded
  last := isGreatest_lastRank
  keys := keys_pin ns maxPasses qualify blocks
  pinned p hp := by
    have hlook := lookup_of_mem (nodup_keys_pin ns maxPasses qualify blocks) hp
    obtain ⟨b,hb,htarget⟩ := pinned_pin ns maxPasses qualify blocks hlook
    exact ⟨b,declared?_firstDeclared blocks p.1 ▸ hb,htarget⟩
  passes := passes_pin ns maxPasses qualify blocks
  late := by
    have hdup : ((laterDeclared blocks).map fun id => Failure.duplicate (qualify id)).filter
        Failure.isOutOfPasses = [] := by simp [Failure.isOutOfPasses]
    have hcause : (diagnoseAll ns (firstDeclared blocks) qualify []
        (stranded ns (firstDeclared blocks))).filter Failure.isOutOfPasses = [] :=
      List.filter_eq_nil_iff.mpr fun f hf => by
        simp [isOutOfPasses_of_mem_diagnoseAll hf]
    have hnames : (cutOff ns (firstDeclared blocks) maxPasses).map (fun b => qualify b.id) =
        (ids (cutOff ns (firstDeclared blocks) maxPasses)).map qualify := by simp [ids]
    rw [failures_pin,List.filter_append,List.filter_append,hdup,hcause,hnames,ids_cutOff]
    split <;> simp [Failure.isOutOfPasses]

end Pinning
end Blueprint
