import Blueprint.Proofs.Pinning.Rank

/-!
The passes of a pinning. After `k` whole passes exactly the ids of rank `k` or less have places, and
within the next pass the blocks gone by of rank `k + 1` have theirs. Places are only ever added, so
the rectangle of a target never changes once it was used.
-/

namespace Blueprint
namespace Pinning

variable {α : Type}

/-! ### Places -/

theorem Places.has_iff_mem {places : Places α} {id : String} :
    places.has id = true ↔ id ∈ places.map (·.1) := by
  rw [Places.has,List.lookup_isSome_iff,List.mem_map]
  constructor
  · rintro ⟨p,hp,he⟩
    exact ⟨p,hp,(beq_iff_eq.mp he).symm⟩
  · rintro ⟨p,hp,he⟩
    exact ⟨p,hp,beq_iff_eq.mpr he.symm⟩

theorem lookup_singleton_eq_some {id id' : String} {rect rect' : Rect α} :
    [(id',rect')].lookup id = some rect ↔ id = id' ∧ rect' = rect := by
  cases hid : id == id' with
  | true =>
    have he : id = id' := by simpa using hid
    simp [he]
  | false =>
    have hne : id ≠ id' := by simpa using hid
    simp [List.lookup_cons,hid,hne]

theorem lookup_append_of_some {places more : Places α} {id : String} {rect : Rect α}
    (h : places.lookup id = some rect) : (places ++ more).lookup id = some rect := by
  rw [List.lookup_append,h]
  rfl

variable [Scalar α]

theorem targetRect?_append {ns : Namespace α} {places : Places α} {b : Block α} {rect : Rect α}
    (more : Places α) (h : targetRect? ns places b = some rect) :
    targetRect? ns (places ++ more) b = some rect := by
  unfold targetRect? at h ⊢
  split at h
  · exact h
  · exact lookup_append_of_some h

variable {ns : Namespace α} {table : List (Block α)} {places : Places α}

/-- A visit leaves the places found before it where they are. -/
theorem visit_eq_append (ns : Namespace α) (places : Places α) (b : Block α) :
    ∃ more, visit ns places b = places ++ more := by
  unfold visit
  split
  · exact ⟨[],by simp⟩
  · split
    · exact ⟨[],by simp⟩
    · exact ⟨_,rfl⟩

theorem foldl_visit_eq_append (ns : Namespace α) (places : Places α) (blocks : List (Block α)) :
    ∃ more, blocks.foldl (visit ns) places = places ++ more := by
  induction blocks generalizing places with
  | nil => exact ⟨[],by simp⟩
  | cons b blocks ih =>
    obtain ⟨more,hmore⟩ := visit_eq_append ns places b
    obtain ⟨rest,hrest⟩ := ih (visit ns places b)
    exact ⟨more ++ rest,by rw [List.foldl_cons,hrest,hmore,List.append_assoc]⟩

theorem has_visit {b : Block α} {id : String} :
    (visit ns places b).has id = true ↔
      places.has id = true ∨ (id = b.id ∧ (targetRect? ns places b).isSome) := by
  unfold visit
  split
  · rename_i hb
    have hid : id = b.id → places.has id = true := fun h => h ▸ hb
    constructor
    · exact Or.inl
    · rintro (h | ⟨h,_⟩)
      · exact h
      · exact hid h
  · split
    · rename_i hnone
      simp [hnone]
    · rename_i rect hsome
      simp [Places.has_iff_mem,hsome]

/-! ### What every state of the passes satisfies -/

/-- Each id has one place, and each place is that of the block pinned to its target. -/
structure Sound (ns : Namespace α) (table : List (Block α)) (places : Places α) : Prop where
  nodup : (places.map (·.1)).Nodup
  pinned : ∀ id rect, places.lookup id = some rect → ∃ b, declared? table id = some b ∧
    ∃ target, targetRect? ns places b = some target ∧
      rect = placeAt b (target.corner b.attachTo.corner)

theorem Sound.empty : Sound ns table [] where
  nodup := by simp
  pinned := by simp

theorem Sound.visit (hd : (ids table).Nodup) (h : Sound ns table places) {b : Block α}
    (hb : b ∈ table) : Sound ns table (visit ns places b) := by
  unfold Pinning.visit
  split
  · exact h
  · rename_i hfresh
    split
    · exact h
    · rename_i target htarget
      have hnew : b.id ∉ places.map (·.1) := fun hmem => hfresh (Places.has_iff_mem.mpr hmem)
      constructor
      · rw [List.map_append,List.nodup_append]
        refine ⟨h.nodup,by simp,?_⟩
        intro x hx y hy he
        have hy : y = b.id := by simpa using hy
        exact hnew (hy ▸ he ▸ hx)
      · intro id rect hlook
        cases hold : places.lookup id with
        | some old =>
          rw [lookup_append_of_some hold] at hlook
          obtain ⟨c,hc,t,ht,hrect⟩ := h.pinned id old hold
          exact ⟨c,hc,t,targetRect?_append _ ht,Option.some.inj hlook ▸ hrect⟩
        | none =>
          rw [List.lookup_append,hold,Option.none_or] at hlook
          obtain ⟨rfl,rfl⟩ := lookup_singleton_eq_some.mp hlook
          exact ⟨b,declared?_of_mem hd hb,target,targetRect?_append _ htarget,rfl⟩

theorem Sound.foldl_visit (hd : (ids table).Nodup) {blocks : List (Block α)}
    (hsub : ∀ b ∈ blocks, b ∈ table) (h : Sound ns table places) :
    Sound ns table (blocks.foldl (Pinning.visit ns) places) := by
  induction blocks generalizing places with
  | nil => exact h
  | cons b blocks ih =>
    rw [List.foldl_cons]
    have hstep := h.visit hd (hsub b List.mem_cons_self)
    exact ih (fun c hc => hsub c (List.mem_cons_of_mem b hc)) hstep

theorem Sound.pass (hd : (ids table).Nodup) (h : Sound ns table places) :
    Sound ns table (pass ns table places) := h.foldl_visit hd fun _ => id

theorem Sound.subset (h : Sound ns table places) {id : String} (hid : places.has id = true) :
    id ∈ ids table := by
  obtain ⟨rect,hrect⟩ := Option.isSome_iff_exists.mp hid
  obtain ⟨b,hb,_⟩ := h.pinned id rect hrect
  exact mem_ids_of_declared? hb

/-- There are fewer places than blocks as long as some block has none. -/
theorem Sound.length_lt_iff (hd : (ids table).Nodup) (h : Sound ns table places) :
    places.length < table.length ↔ ∃ id ∈ ids table, ¬ places.has id = true := by
  have hsub : places.map (·.1) ⊆ ids table := fun id hid => h.subset (Places.has_iff_mem.mpr hid)
  have hperm := List.subperm_of_subset h.nodup hsub
  have hlen : (places.map (·.1)).length = places.length := by simp
  constructor
  · intro hlt
    by_contra hall
    have hback : ids table ⊆ places.map (·.1) := by
      intro id hid
      rw [← Places.has_iff_mem]
      by_contra hno
      exact hall ⟨id,hid,hno⟩
    have hle := (List.subperm_of_subset hd hback).length_le
    rw [length_ids,hlen] at hle
    omega
  · rintro ⟨id,hid,hno⟩
    by_contra hge
    have hle : (ids table).length ≤ (places.map (·.1)).length := by
      rw [length_ids,hlen]
      omega
    exact hno (Places.has_iff_mem.mpr ((hperm.perm_of_length_le hle).mem_iff.mpr hid))

/-! ### One pass -/

/-- The places are those of all ids of rank `k` or less, and of the ids of rank `k + 1` among the
blocks that the next pass has gone by. -/
def Reached (ns : Namespace α) (table : List (Block α)) (k : Nat) (passed : List (Block α))
    (places : Places α) : Prop :=
  ∀ id, places.has id = true ↔
    RankedWithin ns table k id ∨ (id ∈ ids passed ∧ Ranked ns table id (k + 1))

omit [Scalar α] in
theorem Reached.zero : Reached ns table 0 [] [] := by
  intro id
  simp [rankedWithin_zero,Places.has_iff_mem]

omit [Scalar α] in
/-- A whole pass has come by the blocks of the next rank. -/
theorem Reached.succ {k : Nat} (h : Reached ns table k table places) :
    Reached ns table (k + 1) [] places := by
  intro id
  have hmem : id ∈ ids table ∧ Ranked ns table id (k + 1) ↔ Ranked ns table id (k + 1) :=
    and_iff_right_of_imp Ranked.mem_ids
  rw [h id,hmem,rankedWithin_succ]
  simp

/-- The pass that comes by a block knows its target exactly if the block's rank is reached. -/
theorem Reached.isSome_targetRect? {k : Nat} {passed rest : List (Block α)} {b : Block α}
    (hd : (ids (passed ++ b :: rest)).Nodup)
    (h : Reached ns (passed ++ b :: rest) k passed places) :
    (targetRect? ns places b).isSome ↔ RankedWithin ns (passed ++ b :: rest) (k + 1) b.id := by
  have hb : declared? (passed ++ b :: rest) b.id = some b := declared?_of_mem hd (by simp)
  have hnew : b.id ∉ ids passed := by
    rw [ids_append,ids_cons,List.nodup_append] at hd
    exact fun hmem => hd.2.2 _ hmem _ List.mem_cons_self rfl
  cases hc : ns.classify b.attachTo.target with
  | fixed rect =>
    obtain ⟨hr,_⟩ := Namespace.classify_eq_fixed.mp hc
    have hranked : RankedWithin ns (passed ++ b :: rest) (k + 1) b.id :=
      ⟨1,by omega,.reserved ⟨b,hb,hr⟩⟩
    simp [targetRect?,hc,hranked]
  | block target =>
    obtain ⟨hne,rfl⟩ := Namespace.classify_eq_block.mp hc
    have hatt : AttachedTo ns (passed ++ b :: rest) b.id b.attachTo.target := ⟨b,hb,hne,rfl⟩
    have hknown : (targetRect? ns places b).isSome ↔ places.has b.attachTo.target = true := by
      simp [targetRect?,hc,Places.has]
    rw [hknown,h]
    constructor
    · rintro (⟨n,hle,hn⟩ | ⟨hmem,hn⟩)
      · obtain ⟨m,hm,hmn⟩ := hn.attached hatt
        exact ⟨m,by omega,hm⟩
      · exact ⟨k + 1,Nat.le_refl _,.earlier hatt ((mem_ids_left_iff hnew).mp hmem) hn⟩
    · rintro ⟨n,hle,hn⟩
      cases hn with
      | reserved hr => exact absurd hr hatt.not_atReserved
      | earlier hatt' hlt hn =>
        rw [← hatt.unique hatt'] at hlt hn
        rcases Nat.lt_or_eq_of_le hle with hlt' | rfl
        · exact Or.inl ⟨n,by omega,hn⟩
        · exact Or.inr ⟨(mem_ids_left_iff hnew).mpr hlt,hn⟩
      | later hatt' _ hn =>
        rw [← hatt.unique hatt'] at hn
        exact Or.inl ⟨_,by omega,hn⟩

theorem Reached.visit {k : Nat} {passed rest : List (Block α)} {b : Block α}
    (hd : (ids (passed ++ b :: rest)).Nodup)
    (h : Reached ns (passed ++ b :: rest) k passed places) :
    Reached ns (passed ++ b :: rest) k (passed ++ [b]) (visit ns places b) := by
  intro id
  rw [has_visit,h.isSome_targetRect? hd,h id,rankedWithin_succ]
  constructor
  · rintro ((hr | ⟨hmem,hr⟩) | ⟨rfl,hr | hr⟩)
    · exact Or.inl hr
    · exact Or.inr ⟨by simp [hmem],hr⟩
    · exact Or.inl hr
    · exact Or.inr ⟨by simp,hr⟩
  · rintro (hr | ⟨hmem,hr⟩)
    · exact Or.inl (Or.inl hr)
    · rw [ids_append,List.mem_append] at hmem
      rcases hmem with hmem | hmem
      · exact Or.inl (Or.inr ⟨hmem,hr⟩)
      · have hid : id = b.id := by simpa using hmem
        exact Or.inr ⟨hid,Or.inr (hid ▸ hr)⟩

theorem Reached.foldl_visit {k : Nat} {passed rest : List (Block α)}
    (h : Reached ns (passed ++ rest) k passed places) (hd : (ids (passed ++ rest)).Nodup) :
    Reached ns (passed ++ rest) k (passed ++ rest) (rest.foldl (Pinning.visit ns) places) := by
  induction rest generalizing passed places with
  | nil => simpa using h
  | cons b rest ih =>
    have hstep := h.visit hd
    have hassoc : passed ++ b :: rest = passed ++ [b] ++ rest := by simp
    rw [hassoc] at hd hstep ⊢
    exact ih hstep hd

/-- A whole pass reaches the next rank. -/
theorem Reached.pass {k : Nat} (hd : (ids table).Nodup) (h : Reached ns table k [] places) :
    Reached ns table (k + 1) [] (pass ns table places) := by
  have hstart : Reached ns ([] ++ table) k [] places := h
  exact (hstart.foldl_visit hd).succ

/-! ### All passes -/

/-- The passes that place everything that can be placed: as many as the last rank, and one more
that finds nothing as long as some block is left over. -/
def passesNeeded (ns : Namespace α) (table : List (Block α)) : Nat :=
  if ∀ id ∈ ids table, Grounded ns table id then lastRank ns table else lastRank ns table + 1

theorem lastRank_le_passesNeeded (ns : Namespace α) (table : List (Block α)) :
    lastRank ns table ≤ passesNeeded ns table := by
  unfold passesNeeded
  split <;> omega

/-- Something is left to do after `k` passes exactly if more passes are needed. -/
theorem Reached.exists_unplaced_iff {k : Nat} (h : Reached ns table k [] places)
    (hk : k ≤ lastRank ns table) :
    (∃ id ∈ ids table, ¬ places.has id = true) ↔ k < passesNeeded ns table := by
  have hhas (id : String) : places.has id = true ↔ RankedWithin ns table k id := by simpa using h id
  unfold passesNeeded
  split
  · rename_i hall
    constructor
    · rintro ⟨id,hid,hno⟩
      obtain ⟨n,hn⟩ := (hall id hid).exists_ranked
      have hle := hn.le_lastRank
      by_contra hge
      exact hno ((hhas id).mpr ⟨n,by omega,hn⟩)
    · intro hlt
      have hne : lastRank ns table ≠ 0 := by omega
      obtain ⟨id,hn⟩ := exists_ranked_lastRank hne
      exact ⟨id,hn.mem_ids,fun hp => not_rankedWithin_of_lt hn hlt ((hhas id).mp hp)⟩
  · rename_i hsome
    have hlt : k < lastRank ns table + 1 := by omega
    simp only [hlt,iff_true]
    by_contra hnone
    refine hsome fun id hid => ?_
    by_contra hno
    exact hnone ⟨id,hid,fun hp => hno ((hhas id).mp hp).grounded⟩

/-- A pass finds nothing new exactly if the last rank is reached. -/
theorem Reached.length_pass_eq_iff {k : Nat} (hd : (ids table).Nodup)
    (hs : Sound ns table places) (h : Reached ns table k [] places) :
    (Pinning.pass ns table places).length = places.length ↔ lastRank ns table ≤ k := by
  have hnext := h.pass hd
  have hsnext := hs.pass hd
  obtain ⟨more,hmore⟩ := foldl_visit_eq_append ns places table
  change Pinning.pass ns table places = places ++ more at hmore
  rw [hmore] at hnext hsnext ⊢
  constructor
  · intro hlen
    obtain rfl : more = [] := by simpa using hlen
    by_contra hlt
    have hnext' : k + 1 ≤ lastRank ns table := by omega
    obtain ⟨id,hid⟩ := exists_ranked_of_le_lastRank (Nat.succ_pos k) hnext'
    have hplaced := (hnext id).mpr (Or.inl ⟨k + 1,Nat.le_refl _,hid⟩)
    rw [List.append_nil,h id] at hplaced
    rcases hplaced with hr | ⟨hmem,_⟩
    · exact not_rankedWithin_of_lt hid (Nat.lt_succ_self k) hr
    · simp at hmem
  · intro hle
    cases more with
    | nil => simp
    | cons p more =>
      have hp : Places.has (places ++ p :: more) p.1 = true := by simp [Places.has_iff_mem]
      have hold : places.has p.1 = true := by
        rcases (hnext p.1).mp hp with ⟨n,_,hn⟩ | ⟨hmem,_⟩
        · have hlast := hn.le_lastRank
          exact (h p.1).mpr (Or.inl ⟨n,by omega,hn⟩)
        · simp at hmem
      have hnodup := hsnext.nodup
      rw [List.map_append,List.nodup_append] at hnodup
      exact absurd rfl (hnodup.2.2 _ (Places.has_iff_mem.mp hold) p.1 (by simp))

/-- What a run of passes leaves, and how many passes it takes. -/
theorem runPasses_spec (hd : (ids table).Nodup) (most : Nat) {k : Nat} (hs : Sound ns table places)
    (h : Reached ns table k [] places) (hk : k ≤ lastRank ns table) :
    Sound ns table (runPasses ns table most places).1 ∧
      Reached ns table (k + (runPasses ns table most places).2) []
        (runPasses ns table most places).1 ∧
      (runPasses ns table most places).2 = min most (passesNeeded ns table - k) := by
  -- on the passes left; that exactly the ranks up to `k` are placed carries from pass to pass
  induction most generalizing k places with
  | zero => exact ⟨hs,h,by simp [runPasses]⟩
  | succ most ih =>
    have hneed := lastRank_le_passesNeeded ns table
    have hleft := (hs.length_lt_iff hd).trans (h.exists_unplaced_iff hk)
    have hnew := h.length_pass_eq_iff hd hs
    rw [runPasses]
    split
    · rename_i hlt
      have hmore := hleft.mp hlt
      dsimp only
      split
      · rename_i heq
        -- a pass that finds nothing is counted, but none comes after it
        have hlast := hnew.mp heq
        have hone : passesNeeded ns table ≤ lastRank ns table + 1 := by
          unfold passesNeeded
          split <;> omega
        exact ⟨hs.pass hd,h.pass hd,by simp only; omega⟩
      · rename_i hne
        have hlast : k + 1 ≤ lastRank ns table := by
          by_contra hge
          exact hne (hnew.mpr (by omega))
        obtain ⟨hs',hr',hcount⟩ := ih (hs.pass hd) (h.pass hd) hlast
        refine ⟨hs',?_,?_⟩
        · have hcomm : k + ((runPasses ns table most (Pinning.pass ns table places)).2 + 1) =
              k + 1 + (runPasses ns table most (Pinning.pass ns table places)).2 := by omega
          simpa only [hcomm] using hr'
        · simp only [hcount]
          omega
    · rename_i hge
      have hdone : ¬ k < passesNeeded ns table := fun hlt => hge (hleft.mpr hlt)
      exact ⟨hs,h,by simp only; omega⟩

/-- The places found from nothing are those of the ids ranked within the bound. -/
theorem runPasses_empty (ns : Namespace α) (hd : (ids table).Nodup) (most : Nat) :
    Sound ns table (runPasses ns table most []).1 ∧
      (∀ id, (runPasses ns table most []).1.has id = true ↔ RankedWithin ns table most id) ∧
      (runPasses ns table most []).2 = min most (passesNeeded ns table) := by
  have hstart : Reached ns table 0 [] [] := Reached.zero
  obtain ⟨hs,hr,hcount⟩ := runPasses_spec hd most Sound.empty hstart (Nat.zero_le _)
  refine ⟨hs,?_,by simpa using hcount⟩
  intro id
  have hneed := lastRank_le_passesNeeded ns table
  rw [hr id,hcount]
  constructor
  · rintro (⟨n,hle,hn⟩ | ⟨hmem,_⟩)
    · exact ⟨n,by omega,hn⟩
    · simp at hmem
  · rintro ⟨n,hle,hn⟩
    have hlast := hn.le_lastRank
    exact Or.inl ⟨n,by omega,hn⟩

end Pinning
end Blueprint
