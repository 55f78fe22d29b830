import Blueprint.Plan.Validity
import Blueprint.Proofs.Layout.Policy
import Blueprint.Proofs.Layout.Reordering

/-!
The advisory about the origin. It looks at every declaration of a room, whether or not that one is
ignored. So nothing is told where a later declaration of some id is the only one at the origin,
though nothing can be placed.
-/

namespace Blueprint

/-! ### Later declarations at the origin -/

section Declarations

variable {α : Type} {plan : Plan α}

/-- A room is attached to the origin, but an earlier one has its id. -/
def Plan.LateAtOrigin (plan : Plan α) : Prop :=
  ∃ before room after, plan.rooms = before ++ room :: after ∧ room.id ∈ before.map (·.id) ∧
    room.attachTo.target = originName

/-- What is left of a plan is adrift if no room that is the first of its id is at the origin. -/
theorem Plan.adrift_dedup_iff : plan.dedup.Adrift ↔ plan.rooms ≠ [] ∧
    ∀ room ∈ plan.rooms, plan.room? room.id = some room → room.attachTo.target ≠ originName := by
  have hmem (room : Room α) : room ∈ Plan.firstRooms plan.rooms ↔
      room ∈ plan.rooms ∧ plan.room? room.id = some room := by
    rw [mem_firstRooms_iff]
    exact ⟨fun h => ⟨List.mem_of_find?_eq_some h,h⟩,And.right⟩
  have hrooms : Plan.firstRooms plan.rooms = [] ↔ plan.rooms = [] := by
    cases plan.rooms with
    | nil => exact iff_of_true rfl rfl
    | cons room rooms => exact iff_of_false (by simp [firstRooms,firstBy]) (by simp)
  rw [Adrift,rooms_dedup,ne_eq,List.map_eq_nil_iff,hrooms,List.forall_mem_map]
  simp only [hmem,and_imp]
  rfl

/-- A plan is adrift if what is left of it is, and none of its later declarations is at the
origin. -/
theorem Plan.adrift_iff : plan.Adrift ↔ plan.dedup.Adrift ∧ ¬ plan.LateAtOrigin := by
  rw [adrift_dedup_iff]
  constructor
  · rintro ⟨hrooms,hnone⟩
    refine ⟨⟨hrooms,fun room hroom _ => hnone room hroom⟩,?_⟩
    rintro ⟨before,room,after,hsplit,_,horigin⟩
    exact hnone room (by simp [hsplit]) horigin
  · rintro ⟨⟨hrooms,hfirst⟩,hlate⟩
    refine ⟨hrooms,fun room hroom horigin => ?_⟩
    obtain ⟨before,after,hsplit⟩ := List.append_of_mem hroom
    have hid : room.id ∉ before.map (·.id) := fun hid =>
      hlate ⟨before,room,after,hsplit,hid,horigin⟩
    refine hfirst room hroom ?_ horigin
    rw [room?,hsplit,List.find?_append,List.find?_cons_of_pos (by simp),Option.or_eq_right_of_none]
    refine List.find?_eq_none.mpr fun earlier hearlier hsame => hid ?_
    exact beq_iff_eq.mp hsame ▸ List.mem_map_of_mem hearlier

end Declarations

/-! ### The advisory -/

section Advisory

variable {α : Type} [Scalar α]

theorem OriginPolicy.mem_advisory_iff {policy : OriginPolicy} {required : Bool} :
    .noOrigin required ∈ policy.advisory ↔ policy = if required then .require else .warn := by
  cases policy <;> cases required <;> simp [advisory]

/-- What is told of the origin when the rooms of a plan are placed. -/
structure Plan.OriginTold (plan : Plan α) (config : LayoutConfig α) : Prop where
  /-- The advisory is told of a plan that is adrift, as an error where a room at the origin is
  required. -/
  told : ∀ required, .noOrigin required ∈ (placePlan config plan.rooms).failures ↔
    config.originPolicy = (if required then .require else .warn) ∧ plan.Adrift
  /-- It goes by the declarations that are not ignored, unless one that is ignored is at the origin
  and hides that none of them is. -/
  first : ((∃ required, .noOrigin required ∈ (placePlan config plan.rooms).failures) ↔
      config.originPolicy ≠ .ignore ∧ plan.dedup.Adrift) ↔
    ¬ (config.originPolicy ≠ .ignore ∧ plan.dedup.Adrift ∧ plan.LateAtOrigin)
  /-- If it is told as an error, nothing else is told and nothing is placed. -/
  refused : .noOrigin true ∈ (placePlan config plan.rooms).failures →
    placePlan config plan.rooms = ⟨[],[],[.noOrigin true]⟩
  /-- Whatever is told, nothing is placed where no declaration that is not ignored is at the
  origin. -/
  empty : plan.dedup.Adrift →
    (placePlan config plan.rooms).rooms = [] ∧ (placePlan config plan.rooms).parts = []

theorem mem_failures_placePlan_iff {plan : Plan α} {config : LayoutConfig α} {required : Bool} :
    .noOrigin required ∈ (placePlan config plan.rooms).failures ↔
      config.originPolicy = (if required then .require else .warn) ∧ plan.Adrift := by
  have hrest : .noOrigin required ∉ (placeRooms config.maxPasses plan.rooms).failures :=
    fun h => Bool.noConfusion (isOfBlocks_of_mem_placeRooms h)
  rw [placePlan_eq,List.mem_append,originFailures_eq]
  by_cases hadrift : plan.Adrift
  · by_cases hrefused : refused config.originPolicy plan.rooms = true <;>
      simp [hadrift,hrefused,hrest,OriginPolicy.mem_advisory_iff]
  · by_cases hrefused : refused config.originPolicy plan.rooms = true <;>
      simp [hadrift,hrefused,hrest]

theorem exists_noOrigin_iff {plan : Plan α} {config : LayoutConfig α} :
    (∃ required, .noOrigin required ∈ (placePlan config plan.rooms).failures) ↔
      config.originPolicy ≠ .ignore ∧ plan.Adrift := by
  simp only [mem_failures_placePlan_iff,Bool.exists_bool]
  cases config.originPolicy <;> simp

/-- Nothing is placed of rooms that are adrift. -/
theorem Plan.Adrift.placePlan {plan : Plan α} (h : plan.Adrift) (config : LayoutConfig α) :
    (placePlan config plan.rooms).rooms = [] ∧ (placePlan config plan.rooms).parts = [] := by
  have hnone : placements config.maxPasses plan.rooms = [] :=
    placements_eq_nil (fun room hroom => beq_eq_false_iff_ne.mpr (h.2 room hroom)) _
  rw [placePlan_eq,placeRooms_eq,hnone]
  exact ⟨rfl,rfl⟩

/-- The advisory looks at every declaration. -/
theorem placePlan_originTold (plan : Plan α) (config : LayoutConfig α) :
    plan.OriginTold config where
  told _ := mem_failures_placePlan_iff
  first := by
    rw [exists_noOrigin_iff,Plan.adrift_iff]
    tauto
  refused h := by
    obtain ⟨hpolicy,hadrift⟩ := mem_failures_placePlan_iff.mp h
    have hrefused : refused config.originPolicy plan.rooms = true :=
      refused_eq_true_iff.mpr ⟨hpolicy,hadrift⟩
    have hfailures : (placePlan config plan.rooms).failures = [.noOrigin true] := by
      rw [placePlan_eq,if_pos hrefused,originFailures_eq,if_pos hadrift,hpolicy]
      rfl
    obtain ⟨hrooms,hparts⟩ := hadrift.placePlan config
    cases hplaced : placePlan config plan.rooms with
    | mk rooms parts failures =>
      rw [hplaced] at hrooms hparts hfailures
      exact congr (congrArg₂ Placement.mk hrooms hparts) hfailures
  empty h := by
    have hdedup := h.placePlan config
    rwa [placePlan_dedup] at hdedup

end Advisory

/-- A hall that hangs on nothing, and is declared once more at the origin. -/
def hallTwice : Plan Rat where
  rooms := [unitRoom "hall" "nowhere" [],unitRoom "hall" originName []]
  doors := []
  windows := []

/-- No policy tells that the hall which takes part is not at the origin. -/
theorem origin_untold_hallTwice :
    hallTwice.isValid = true ∧ hallTwice.dedup.Adrift ∧
    (∀ policy, placePlan (LayoutConfig.standard.under policy) hallTwice.rooms =
      ⟨[],[],[.duplicate "hall",.missingTarget "hall" "nowhere"]⟩) ∧
    ¬ ((∃ required, .noOrigin required ∈ (placePlan .standard hallTwice.rooms).failures) ↔
      (LayoutConfig.standard : LayoutConfig Rat).originPolicy ≠ .ignore ∧
        hallTwice.dedup.Adrift) := by
  have hplaced (policy : OriginPolicy) :
      placePlan (LayoutConfig.standard.under policy) hallTwice.rooms =
        ⟨[],[],[.duplicate "hall",.missingTarget "hall" "nowhere"]⟩ := by
    cases policy <;> decide +kernel
  refine ⟨by decide +kernel,by decide +kernel,hplaced,fun h => ?_⟩
  obtain ⟨required,hmem⟩ := h.mpr ⟨by decide,by decide +kernel⟩
  rw [show LayoutConfig.standard = LayoutConfig.standard.under .warn from rfl,hplaced] at hmem
  simp at hmem

end Blueprint
