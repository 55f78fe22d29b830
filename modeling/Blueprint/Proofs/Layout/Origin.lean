import Blueprint.Proofs.Layout.Placement

/-!
The policy about the origin. A plan that is refused because no room is attached to the origin has
nothing that could be placed, so the policy decides only what is told.
-/

namespace Blueprint

variable {α : Type}

namespace Pinning

variable {ns : Namespace α} {table blocks : List (Block α)}

/-- The way from a grounded id ends at a block that is attached to the reserved name. -/
theorem Grounded.exists_atReserved {id : String} (h : Grounded ns table id) :
    ∃ last, AtReserved ns table last := by
  induction h with
  | reserved hr => exact ⟨_,hr⟩
  | attached _ _ ih => exact ih

/-- Without a block at the reserved name nothing is placed. -/
theorem rects_pin_eq_nil [Scalar α] (h : ∀ b ∈ blocks, b.attachTo.target ≠ ns.reserved)
    (maxPasses : Nat) (qualify : String → String) :
    (pin ns maxPasses qualify blocks).rects = [] := by
  refine List.map_eq_nil_iff.mp ((keys_pin ns maxPasses qualify blocks).trans ?_)
  refine List.filter_eq_nil_iff.mpr fun id _ hid => ?_
  obtain ⟨last,b,hb,hr⟩ := (of_decide_eq_true hid).grounded.exists_atReserved
  exact h b ((firstDeclared_sublist blocks).mem (mem_of_declared? hb)) hr

end Pinning

/-- Whether the policy refuses to place any of the rooms. -/
def refused (policy : OriginPolicy) (rooms : List (Room α)) : Bool :=
  (originFailures policy rooms).contains (.noOrigin true)

theorem not_attachesToOrigin_of_refused {policy : OriginPolicy} {rooms : List (Room α)}
    (h : refused policy rooms = true) : ∀ room ∈ rooms, attachesToOrigin room = false := by
  unfold refused originFailures at h
  split at h
  · simp at h
  · rename_i hnone
    simp only [Bool.or_eq_true,List.any_eq_true,not_or,not_exists,not_and,Bool.not_eq_true] at hnone
    exact hnone.2

variable [Scalar α]

/-- Rooms of which none is attached to the origin are not placed. -/
theorem placements_eq_nil {rooms : List (Room α)}
    (h : ∀ room ∈ rooms, attachesToOrigin room = false) (maxPasses : Nat) :
    placements maxPasses rooms = [] := by
  have hrects : (pin .rooms maxPasses id (rooms.map Room.toBlock)).rects = [] := by
    refine Pinning.rects_pin_eq_nil (fun b hb => ?_) maxPasses id
    obtain ⟨room,hroom,rfl⟩ := List.mem_map.mp hb
    exact beq_eq_false_iff_ne.mp (h room hroom)
  simp [placements,hrects]

/-- The rooms and parts of a plan are placed alike under all policies. -/
theorem placePlan_eq (config : LayoutConfig α) (rooms : List (Room α)) :
    placePlan config rooms =
      { placeRooms config.maxPasses rooms with
        failures := originFailures config.originPolicy rooms ++
          if refused config.originPolicy rooms then []
          else (placeRooms config.maxPasses rooms).failures } := by
  have hplace : placePlan config rooms =
      if refused config.originPolicy rooms then
        ⟨[],[],originFailures config.originPolicy rooms⟩
      else
        { placeRooms config.maxPasses rooms with
          failures := originFailures config.originPolicy rooms ++
            (placeRooms config.maxPasses rooms).failures } := rfl
  rw [hplace]
  by_cases hrefused : refused config.originPolicy rooms = true
  · have hnone := placements_eq_nil (not_attachesToOrigin_of_refused hrefused) config.maxPasses
    simp [hrefused,placeRooms_eq,hnone]
  · simp [hrefused]

end Blueprint
