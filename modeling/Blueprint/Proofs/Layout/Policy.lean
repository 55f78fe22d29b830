import Blueprint.Proofs.Layout.Repetition

/-!
The layouts of a plan under the policies about the origin. A plan of which no room is attached to
the origin shows nothing, whether its rooms are looked at or refused. The policies differ in what is
told: an advisory comes first, and a refusal stands for all that is wrong with the rooms.
-/

namespace Blueprint

/-! ### What is told of openings -/

def Failure.isWallReference : Failure → Bool
  | wallReference _ _ _ => true
  | _ => false

/-- Whether a failure is about rooms and parts. -/
def Failure.isOfBlocks : Failure → Bool
  | wallReference _ _ _ => false
  | noOrigin _ => false
  | _ => true

theorem Failure.isWallReference_of_isOfBlocks {f : Failure} (h : f.isOfBlocks = true) :
    f.isWallReference = false := by
  cases f with
  | wallReference => cases h
  | _ => rfl

variable {α : Type} [Scalar α]

theorem Pinning.isOfBlocks_of_mem_pin {ns : Namespace α} {maxPasses : Nat}
    {qualify : String → String} {blocks : List (Block α)} {f : Failure}
    (h : f ∈ (pin ns maxPasses qualify blocks).failures) : f.isOfBlocks = true := by
  rw [failures_pin_eq,List.mem_append,List.mem_append] at h
  rcases h with (h | h) | h
  · obtain ⟨_,_,rfl⟩ := List.mem_map.mp h
    rfl
  · rcases kind_of_mem_causes h with ⟨_,_,rfl⟩ | ⟨_,rfl⟩ | ⟨_,_,rfl⟩ <;> rfl
  · obtain ⟨_,rfl⟩ := mem_overrun.mp h
    rfl

theorem isOfBlocks_of_mem_placeRooms {maxPasses : Nat} {rooms : List (Room α)} {f : Failure}
    (h : f ∈ (placeRooms maxPasses rooms).failures) : f.isOfBlocks = true := by
  rw [placeRooms_eq,List.mem_append,flatMap_placements,List.mem_flatMap] at h
  rcases h with h | ⟨room,_,h⟩
  · exact Pinning.isOfBlocks_of_mem_pin h
  · obtain ⟨rect,_,h⟩ := List.mem_flatMap.mp h
    rw [placeRoom_eq] at h
    exact Pinning.isOfBlocks_of_mem_pin h

/-- Nothing that is told of rooms and parts is about an opening. -/
theorem isWallReference_of_mem_placePlan {config : LayoutConfig α} {rooms : List (Room α)}
    {f : Failure} (h : f ∈ (placePlan config rooms).failures) : f.isWallReference = false := by
  rw [placePlan_eq,List.mem_append] at h
  rcases h with h | h
  · unfold originFailures at h
    split at h
    · cases h
    · split at h <;> simp_all [Failure.isWallReference]
  · split at h
    · cases h
    · exact Failure.isWallReference_of_isOfBlocks (isOfBlocks_of_mem_placeRooms h)

theorem isWallReference_of_mem_openingFailures {plan : Plan α} {config : LayoutConfig α}
    {f : Failure} (h : f ∈ plan.openingFailures config) : f.isWallReference = true := by
  obtain ⟨attempt,hattempt,hf⟩ := List.mem_filterMap.mp h
  obtain ⟨o,_,rfl⟩ := List.mem_map.mp hattempt
  cases hplace : placeOpening config (placePlan config plan.rooms) o with
  | ok placed => simp [hplace] at hf
  | error e =>
    obtain rfl : e = f := by simpa [hplace] using hf
    obtain ⟨_,rfl⟩ := wallReference_of_placeOpening hplace
    rfl

/-- What a layout tells of openings is what came of placing them. -/
theorem filter_isWallReference_failures (plan : Plan α) (config : LayoutConfig α) :
    (plan.layout config).failures.filter Failure.isWallReference = plan.openingFailures config := by
  have hrooms : (placePlan config plan.rooms).failures.filter Failure.isWallReference = [] :=
    List.filter_eq_nil_iff.mpr fun f hf => by simp [isWallReference_of_mem_placePlan hf]
  have hopenings : (plan.openingFailures config).filter Failure.isWallReference =
      plan.openingFailures config :=
    List.filter_eq_self.mpr fun f hf => isWallReference_of_mem_openingFailures hf
  rw [failures_layout,List.filter_append,hrooms,hopenings,List.nil_append]

/-! ### One plan under all policies -/

/-- The plan has rooms, and none of them is attached to the origin. -/
def Plan.Adrift (plan : Plan α) : Prop :=
  plan.rooms ≠ [] ∧ ∀ room ∈ plan.rooms, room.attachTo.target ≠ originName

instance (plan : Plan α) : Decidable plan.Adrift := inferInstanceAs (Decidable (_ ∧ _))

/-- The same settings under another policy. -/
def LayoutConfig.under (config : LayoutConfig α) (policy : OriginPolicy) : LayoutConfig α :=
  { config with originPolicy := policy }

/-- What a policy tells of a plan that is adrift. -/
def OriginPolicy.advisory : OriginPolicy → List Failure
  | ignore => []
  | warn => [.noOrigin false]
  | require => [.noOrigin true]

omit [Scalar α] in
theorem originFailures_eq (policy : OriginPolicy) (plan : Plan α) :
    originFailures policy plan.rooms = if plan.Adrift then policy.advisory else [] := by
  have hadrift : (plan.rooms.isEmpty || plan.rooms.any attachesToOrigin) = false ↔
      plan.Adrift := by
    simp [Plan.Adrift,attachesToOrigin]
  unfold originFailures
  by_cases h : plan.Adrift
  · rw [hadrift.mpr h,if_pos h]
    cases policy <;> rfl
  · rw [Bool.eq_true_of_not_eq_false (mt hadrift.mp h),if_neg h]
    rfl

omit [Scalar α] in
theorem refused_eq_true_iff {policy : OriginPolicy} {plan : Plan α} :
    refused policy plan.rooms = true ↔ policy = .require ∧ plan.Adrift := by
  rw [refused,originFailures_eq]
  by_cases h : plan.Adrift <;> cases policy <;> simp [h,OriginPolicy.advisory]

/-- A policy changes nothing about a placement but what comes first in its failures. -/
theorem placePlan_under (plan : Plan α) (config : LayoutConfig α) (policy : OriginPolicy) :
    placePlan (config.under policy) plan.rooms =
      { placePlan (config.under .ignore) plan.rooms with
        failures := (placePlan (config.under policy) plan.rooms).failures } := by
  rw [placePlan_eq (config.under policy),placePlan_eq (config.under .ignore)]
  rfl

/-- Openings see the rooms and parts in their places only. -/
theorem openingFailures_under (plan : Plan α) (config : LayoutConfig α) (policy : OriginPolicy) :
    plan.openingFailures (config.under policy) = plan.openingFailures (config.under .ignore) := by
  rw [Plan.openingFailures,placePlan_under]
  rfl

theorem failures_placePlan_under (plan : Plan α) (config : LayoutConfig α)
    (policy : OriginPolicy) : (placePlan (config.under policy) plan.rooms).failures =
      (if plan.Adrift then policy.advisory else []) ++
        if policy = .require ∧ plan.Adrift then []
        else (placePlan (config.under .ignore) plan.rooms).failures := by
  have hignore : (placePlan (config.under .ignore) plan.rooms).failures =
      (placeRooms config.maxPasses plan.rooms).failures :=
    congrArg Placement.failures (placePlan_ignoringOrigin config plan.rooms)
  have hpolicy : (config.under policy).originPolicy = policy := rfl
  rw [hignore,placePlan_eq,hpolicy,originFailures_eq]
  simp only [refused_eq_true_iff]
  rfl

/-- The layouts of a plan under all policies. -/
structure Plan.PolicyTold (plan : Plan α) (config : LayoutConfig α) : Prop where
  /-- The policy does not change what is shown. -/
  shown : ∀ policy, plan.layout (config.under policy) =
    { plan.layout (config.under .ignore) with
      failures := (plan.layout (config.under policy)).failures }
  /-- An advisory comes first if the plan is adrift. -/
  warned : (plan.layout (config.under .warn)).failures =
    (if plan.Adrift then [.noOrigin false] else []) ++
      (plan.layout (config.under .ignore)).failures
  /-- A plan that is adrift is refused, and besides only its openings are told. -/
  refused : plan.Adrift → (plan.layout (config.under .require)).failures =
    .noOrigin true :: (plan.layout (config.under .ignore)).failures.filter Failure.isWallReference
  accepted : ¬ plan.Adrift → (plan.layout (config.under .require)).failures =
    (plan.layout (config.under .ignore)).failures
  /-- Without regard to the origin nothing is told of it. -/
  ignored : ∀ required, .noOrigin required ∉ (plan.layout (config.under .ignore)).failures

/-- The policy about the origin decides what is told, and nothing else. -/
theorem layout_policyTold (plan : Plan α) (config : LayoutConfig α) : plan.PolicyTold config where
  shown policy := by
    unfold Plan.layout
    rw [placePlan_under]
    rfl
  warned := by
    rw [failures_layout,failures_layout,openingFailures_under,failures_placePlan_under]
    simp [OriginPolicy.advisory]
  refused hadrift := by
    rw [filter_isWallReference_failures,failures_layout,openingFailures_under,
      failures_placePlan_under]
    simp [hadrift,OriginPolicy.advisory]
  accepted hadrift := by
    rw [failures_layout,failures_layout,openingFailures_under,failures_placePlan_under]
    simp [hadrift]
  ignored required h := by
    rw [failures_layout,List.mem_append] at h
    rcases h with h | h
    · rw [show config.under .ignore = config.ignoringOrigin from rfl,placePlan_ignoringOrigin] at h
      exact Bool.noConfusion (isOfBlocks_of_mem_placeRooms h)
    · exact Bool.noConfusion (isWallReference_of_mem_openingFailures h)

end Blueprint
