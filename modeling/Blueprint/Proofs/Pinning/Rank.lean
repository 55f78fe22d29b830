import Blueprint.Proofs.Pinning.Attachment
import Mathlib.Order.Bounds.Basic

/-!
Ranks: the pass in which a block finds its place. A block at the reserved name is placed in the
first pass. Any other block follows its target: within the same pass if the target is declared
before it, since the pass has come by the target already, and one pass later if it is declared
behind it. Ranks leave no gap: below every rank stand all smaller ones.
-/

namespace Blueprint
namespace Pinning

variable {α : Type} (ns : Namespace α) (table : List (Block α))

/-- Where in the table an id is declared. -/
def position (id : String) : Nat := (ids table).idxOf id

/-- The rank of an id whose attachments lead to the reserved name. -/
inductive Ranked : String → Nat → Prop
  | reserved {id : String} : AtReserved ns table id → Ranked id 1
  | earlier {id target : String} {n : Nat} : AttachedTo ns table id target →
      position table target < position table id → Ranked target n → Ranked id n
  | later {id target : String} {n : Nat} : AttachedTo ns table id target →
      position table id < position table target → Ranked target n → Ranked id (n + 1)

/-- The rank of an id is at most a given number. -/
def RankedWithin (most : Nat) (id : String) : Prop := ∃ n ≤ most, Ranked ns table id n

variable {ns table}

theorem position_inj {s t : String} (hs : s ∈ ids table)
    (h : position table s = position table t) : s = t := (List.idxOf_inj hs).mp h

/-- The ids of the first part of a table are those that stand before the second part. -/
theorem mem_ids_left_iff {pre post : List (Block α)} {b : Block α} {id : String}
    (hb : b.id ∉ ids pre) :
    id ∈ ids pre ↔ position (pre ++ b :: post) id < position (pre ++ b :: post) b.id := by
  have hpos : position (pre ++ b :: post) b.id = (ids pre).length := by
    simp [position,List.idxOf_append_of_notMem hb]
  have hpre : ids pre <+: ids (pre ++ b :: post) := by simp
  rw [hpos]
  exact hpre.mem_iff_idxOf_lt_length id

/-! ### Grounded ids -/

theorem Grounded.not_onCycle {id : String} (h : Grounded ns table id) : ¬ OnCycle ns table id := by
  induction h with
  | reserved hr =>
    intro hcycle
    obtain ⟨target,hatt,_⟩ := Relation.TransGen.head'_iff.mp hcycle
    exact hatt.not_atReserved hr
  | attached hatt _ ih =>
    intro hcycle
    obtain ⟨target,hatt',hback⟩ := Relation.TransGen.head'_iff.mp hcycle
    rw [← hatt.unique hatt'] at hback
    exact ih (Relation.TransGen.tail' hback hatt)

theorem Ranked.grounded {id : String} {n : Nat} (h : Ranked ns table id n) :
    Grounded ns table id := by
  induction h with
  | reserved hr => exact .reserved hr
  | earlier hatt _ _ ih => exact .attached hatt ih
  | later hatt _ _ ih => exact .attached hatt ih

theorem Grounded.exists_walk {id : String} (h : Grounded ns table id) :
    ∃ path, Walk ns table (AtReserved ns table) id path := by
  induction h with
  | reserved hr => exact ⟨_,.done hr.mem_ids hr⟩
  | attached hatt _ ih =>
    obtain ⟨path,hwalk⟩ := ih
    exact ⟨_,.step hatt.not_atReserved hatt hwalk⟩

namespace Ranked

theorem mem_ids {id : String} {n : Nat} (h : Ranked ns table id n) : id ∈ ids table :=
  h.grounded.mem_ids

theorem pos {id : String} {n : Nat} (h : Ranked ns table id n) : 0 < n := by
  induction h with
  | reserved => exact Nat.one_pos
  | earlier _ _ _ ih => exact ih
  | later => exact Nat.succ_pos _

theorem unique {id : String} {m n : Nat} (hm : Ranked ns table id m) (hn : Ranked ns table id n) :
    m = n := by
  induction hm generalizing n with
  | reserved hr =>
    cases hn with
    | reserved => rfl
    | earlier hatt => exact absurd hr hatt.not_atReserved
    | later hatt => exact absurd hr hatt.not_atReserved
  | earlier hatt hlt _ ih =>
    cases hn with
    | reserved hr => exact absurd hr hatt.not_atReserved
    | earlier hatt' _ hn =>
      rw [← hatt.unique hatt'] at hn
      exact ih hn
    | later hatt' hgt _ =>
      rw [← hatt.unique hatt'] at hgt
      exact absurd hgt (Nat.lt_asymm hlt)
  | later hatt hgt _ ih =>
    cases hn with
    | reserved hr => exact absurd hr hatt.not_atReserved
    | earlier hatt' hlt _ =>
      rw [← hatt.unique hatt'] at hlt
      exact absurd hlt (Nat.lt_asymm hgt)
    | later hatt' _ hn =>
      rw [← hatt.unique hatt'] at hn
      rw [ih hn]

/-- A block attached to a target of some rank has the same rank or the next one. -/
theorem attached {id target : String} {n : Nat} (h : Ranked ns table target n)
    (hatt : AttachedTo ns table id target) : ∃ m, Ranked ns table id m ∧ n ≤ m ∧ m ≤ n + 1 := by
  rcases Nat.lt_trichotomy (position table target) (position table id) with hlt | heq | hgt
  · exact ⟨n,.earlier hatt hlt h,by omega⟩
  · obtain rfl := position_inj h.mem_ids heq
    exact absurd (.single hatt) h.grounded.not_onCycle
  · exact ⟨n + 1,.later hatt hgt h,by omega⟩

/-- Below every rank stand all smaller ones, down to the first. -/
theorem exists_of_le {id : String} {k n : Nat} (h : Ranked ns table id n) (hk : 0 < k)
    (hkn : k ≤ n) : ∃ id', Ranked ns table id' k := by
  induction h with
  | reserved hr =>
    obtain rfl : k = 1 := by omega
    exact ⟨_,.reserved hr⟩
  | earlier _ _ _ ih => exact ih hkn
  | later hatt hgt hn ih =>
    rcases Nat.lt_or_eq_of_le hkn with hlt | rfl
    · exact ih (by omega)
    · exact ⟨_,.later hatt hgt hn⟩

end Ranked

theorem Grounded.exists_ranked {id : String} (h : Grounded ns table id) :
    ∃ n, Ranked ns table id n := by
  induction h with
  | reserved hr => exact ⟨1,.reserved hr⟩
  | attached hatt _ ih =>
    obtain ⟨n,hn⟩ := ih
    obtain ⟨m,hm,_⟩ := hn.attached hatt
    exact ⟨m,hm⟩

theorem exists_ranked_iff {id : String} :
    (∃ n, Ranked ns table id n) ↔ Grounded ns table id :=
  ⟨fun ⟨_,h⟩ => h.grounded,Grounded.exists_ranked⟩

/-! ### Ranks within a bound -/

theorem rankedWithin_zero {id : String} : ¬ RankedWithin ns table 0 id := by
  rintro ⟨n,hle,hn⟩
  have hpos := hn.pos
  omega

theorem rankedWithin_succ {k : Nat} {id : String} :
    RankedWithin ns table (k + 1) id ↔ RankedWithin ns table k id ∨ Ranked ns table id (k + 1) := by
  constructor
  · rintro ⟨n,hle,hn⟩
    rcases Nat.lt_or_eq_of_le hle with hlt | rfl
    · exact Or.inl ⟨n,by omega,hn⟩
    · exact Or.inr hn
  · rintro (⟨n,hle,hn⟩ | hn)
    · exact ⟨n,by omega,hn⟩
    · exact ⟨k + 1,Nat.le_refl _,hn⟩

theorem RankedWithin.grounded {k : Nat} {id : String} (h : RankedWithin ns table k id) :
    Grounded ns table id := by
  obtain ⟨n,_,hn⟩ := h
  exact hn.grounded

theorem not_rankedWithin_of_lt {k n : Nat} {id : String} (h : Ranked ns table id n) (hlt : k < n) :
    ¬ RankedWithin ns table k id := by
  rintro ⟨m,hm,hid⟩
  have he := hid.unique h
  omega

/-! ### Computing the rank -/

/-- The rank of an id, if the reserved name is reached within a number of steps. -/
def rankWithin [Scalar α] (ns : Namespace α) (table : List (Block α)) :
    (steps : Nat) → (id : String) → Option Nat
  | 0, _ => none
  | steps + 1, id =>
    match declared? table id with
    | none => none
    | some b =>
      match ns.classify b.attachTo.target with
      | .fixed _ => some 1
      | .block target => (rankWithin ns table steps target).map fun n =>
          if position table target < position table id then n else n + 1

/-- The rank of an id, if its attachments lead to the reserved name. -/
def rank? [Scalar α] (ns : Namespace α) (table : List (Block α)) (id : String) : Option Nat :=
  rankWithin ns table table.length id

theorem ranked_of_rankWithin [Scalar α] {steps : Nat} {id : String} {n : Nat}
    (h : rankWithin ns table steps id = some n) : Ranked ns table id n := by
  induction steps generalizing id n with
  | zero => simp [rankWithin] at h
  | succ steps ih =>
    rw [rankWithin] at h
    cases hb : declared? table id with
    | none => simp [hb] at h
    | some b =>
      cases hc : ns.classify b.attachTo.target with
      | fixed rect =>
        obtain ⟨hr,_⟩ := Namespace.classify_eq_fixed.mp hc
        obtain rfl : n = 1 := by simpa [hb,hc,eq_comm] using h
        exact .reserved ⟨b,hb,hr⟩
      | block target =>
        obtain ⟨hne,rfl⟩ := Namespace.classify_eq_block.mp hc
        have hatt : AttachedTo ns table id b.attachTo.target := ⟨b,hb,hne,rfl⟩
        simp only [hb,hc,Option.map_eq_some_iff] at h
        obtain ⟨m,hm,hmn⟩ := h
        have htarget := ih hm
        split at hmn
        · rename_i hlt
          exact hmn ▸ .earlier hatt hlt htarget
        · rename_i hge
          have hself : position table b.attachTo.target ≠ position table id := by
            intro he
            have hid := position_inj htarget.mem_ids he
            rw [hid] at hatt htarget
            exact htarget.grounded.not_onCycle (.single hatt)
          exact hmn ▸ .later hatt (by omega) htarget

theorem rankWithin_of_walk [Scalar α] {steps : Nat} {id : String} {n : Nat} {path : List String}
    (hwalk : Walk ns table (AtReserved ns table) id path) (hlen : path.length ≤ steps)
    (h : Ranked ns table id n) : rankWithin ns table steps id = some n := by
  induction hwalk generalizing steps n with
  | done _ hr =>
    obtain ⟨b,hb,hbr⟩ := hr
    obtain rfl := h.unique (.reserved ⟨b,hb,hbr⟩)
    cases steps with
    | zero => simp at hlen
    | succ steps =>
      have hc := Namespace.classify_eq_fixed.mpr ⟨hbr,rfl⟩
      simp [rankWithin,hb,hc]
  | step hgo hatt _ ih =>
    cases steps with
    | zero => simp at hlen
    | succ steps =>
      have hlen : _ ≤ steps := Nat.le_of_succ_le_succ hlen
      have hb := hatt
      obtain ⟨b,hb,hne,rfl⟩ := hb
      have hc := Namespace.classify_eq_block.mpr ⟨hne,rfl⟩
      cases h with
      | reserved hr => exact absurd hr hgo
      | earlier hatt' hlt hn =>
        obtain rfl := hatt.unique hatt'
        simp [rankWithin,hb,hc,ih hlen hn,hlt]
      | later hatt' hgt hn =>
        obtain rfl := hatt.unique hatt'
        simp [rankWithin,hb,hc,ih hlen hn,Nat.lt_asymm hgt]

/-- The computed rank is the rank. -/
theorem rank?_eq_some_iff [Scalar α] {id : String} {n : Nat} :
    rank? ns table id = some n ↔ Ranked ns table id n := by
  constructor
  · exact ranked_of_rankWithin
  · intro h
    obtain ⟨path,hwalk⟩ := h.grounded.exists_walk
    exact rankWithin_of_walk hwalk hwalk.length_le h

instance [Scalar α] (id : String) : Decidable (Grounded ns table id) :=
  decidable_of_iff ((rank? ns table id).isSome) (by
    rw [Option.isSome_iff_exists,← exists_ranked_iff]
    exact exists_congr fun _ => rank?_eq_some_iff)

instance [Scalar α] (most : Nat) (id : String) : Decidable (RankedWithin ns table most id) :=
  decidable_of_iff (∃ n ∈ rank? ns table id, n ≤ most) (by
    simp only [Option.mem_def,rank?_eq_some_iff,RankedWithin,and_comm])

/-! ### The last rank -/

/-- The ranks of all blocks that have one. -/
def ranks [Scalar α] (ns : Namespace α) (table : List (Block α)) : List Nat :=
  (ids table).filterMap (rank? ns table)

/-- The largest rank, zero if nothing is grounded. -/
def lastRank [Scalar α] (ns : Namespace α) (table : List (Block α)) : Nat :=
  (ranks ns table).max?.getD 0

theorem mem_ranks [Scalar α] {n : Nat} : n ∈ ranks ns table ↔ ∃ id, Ranked ns table id n := by
  simp only [ranks,List.mem_filterMap,rank?_eq_some_iff]
  exact exists_congr fun id => and_iff_right_of_imp Ranked.mem_ids

theorem Ranked.le_lastRank [Scalar α] {id : String} {n : Nat} (h : Ranked ns table id n) :
    n ≤ lastRank ns table := by
  have hmem : n ∈ ranks ns table := mem_ranks.mpr ⟨id,h⟩
  cases hmax : (ranks ns table).max? with
  | none => simp [List.max?_eq_none_iff.mp hmax] at hmem
  | some last =>
    rw [lastRank,hmax]
    exact (List.max?_eq_some_iff.mp hmax).2 n hmem

theorem exists_ranked_lastRank [Scalar α] (h : lastRank ns table ≠ 0) :
    ∃ id, Ranked ns table id (lastRank ns table) := by
  rw [lastRank] at h ⊢
  cases hmax : (ranks ns table).max? with
  | none => simp [hmax] at h
  | some last => exact mem_ranks.mp (List.max?_eq_some_iff.mp hmax).1

/-- The last rank is the largest rank that some id has, or zero. -/
theorem isGreatest_lastRank [Scalar α] :
    IsGreatest {n | n = 0 ∨ ∃ id, Ranked ns table id n} (lastRank ns table) := by
  constructor
  · by_cases h : lastRank ns table = 0
    · exact Or.inl h
    · exact Or.inr (exists_ranked_lastRank h)
  · rintro n (rfl | ⟨id,hn⟩)
    · exact Nat.zero_le _
    · exact hn.le_lastRank

/-- Some id has each rank up to the last. -/
theorem exists_ranked_of_le_lastRank [Scalar α] {k : Nat} (hk : 0 < k)
    (hle : k ≤ lastRank ns table) : ∃ id, Ranked ns table id k := by
  have hne : lastRank ns table ≠ 0 := by omega
  obtain ⟨id,hid⟩ := exists_ranked_lastRank hne
  exact hid.exists_of_le hk hle

end Pinning
end Blueprint
