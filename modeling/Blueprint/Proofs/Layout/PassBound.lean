import Blueprint.Proofs.Layout.Origin
import Blueprint.Proofs.Layout.Reordering
import Blueprint.Proofs.Pinning.PassBound

/-!
The bound on the passes of a plan. A larger bound adds rooms and parts and moves none; what is told
of the rooms, and of the parts of a room in its place, stays the same but for those cut off.
-/

namespace Blueprint

variable {α : Type} [Scalar α]

/-- The same settings with another bound on the passes. -/
def LayoutConfig.within (config : LayoutConfig α) (most : Nat) : LayoutConfig α :=
  { config with maxPasses := most }

/-- What is told of the rooms of a plan. -/
def Plan.roomFailures (plan : Plan α) (config : LayoutConfig α) : List Failure :=
  if refused config.originPolicy plan.rooms then [] else (plan.pinRooms config.maxPasses).failures

/-- What is told of the parts of a room in its place. -/
def Plan.partFailures (plan : Plan α) (config : LayoutConfig α) (placed : PlacedRoom α) :
    List Failure :=
  (plan.room? placed.id).toList.flatMap fun room =>
    (room.pinParts placed.rect config.maxPasses).failures

/-- The failures of a placement: of the origin, of the rooms, and of the parts of every room in its
place. -/
theorem failures_placePlan (plan : Plan α) (config : LayoutConfig α) :
    (placePlan config plan.rooms).failures =
      originFailures config.originPolicy plan.rooms ++ plan.roomFailures config ++
        (placePlan config plan.rooms).rooms.flatMap (plan.partFailures config) := by
  have hparts : (placements config.maxPasses plan.rooms).flatMap (·.failures) =
      (placements config.maxPasses plan.rooms).flatMap fun p =>
        p.rooms.flatMap (plan.partFailures config) := by
    rw [flatMap_placements,flatMap_placements]
    refine List.flatMap_congr fun room hroom => List.flatMap_congr fun rect _ => ?_
    simp [placeRoom_eq,Plan.partFailures,Plan.mem_firstRooms_iff.mp hroom]
  by_cases hrefused : refused config.originPolicy plan.rooms = true
  · have hnone := placements_eq_nil (not_attachesToOrigin_of_refused hrefused) config.maxPasses
    simp [placePlan_eq,placeRooms_eq,hnone,hrefused,Plan.roomFailures]
  · simp [placePlan_eq,placeRooms_eq,hparts,hrefused,Plan.roomFailures,Plan.pinRooms,
      List.flatMap_assoc]

/-- What is read off the placements grows with the bound, if it does so room by room. -/
theorem flatMap_placements_sublist {β : Type} (read : Placement α → List β) {most most' : Nat}
    (h : most ≤ most') (rooms : List (Room α))
    (hread : ∀ room rect,
      (read (placeRoom most room rect)).Sublist (read (placeRoom most' room rect))) :
    ((placements most rooms).flatMap read).Sublist ((placements most' rooms).flatMap read) := by
  rw [flatMap_placements,flatMap_placements]
  refine List.Sublist.flatMap_right _ fun room _ => ?_
  cases hrect : (pin .rooms most id (rooms.map Room.toBlock)).rects.lookup room.id with
  | none => exact List.nil_sublist _
  | some rect =>
    rw [Pinning.lookup_pin_of_le h hrect]
    exact List.Sublist.flatMap_right _ fun rect _ => hread room rect

theorem rooms_placePlan_sublist (plan : Plan α) (config : LayoutConfig α) {most most' : Nat}
    (h : most ≤ most') : (placePlan (config.within most) plan.rooms).rooms.Sublist
      (placePlan (config.within most') plan.rooms).rooms := by
  rw [placePlan_eq,placePlan_eq,placeRooms_eq,placeRooms_eq]
  refine flatMap_placements_sublist (·.rooms) h plan.rooms fun room rect => ?_
  rw [placeRoom_eq,placeRoom_eq]

theorem parts_placePlan_sublist (plan : Plan α) (config : LayoutConfig α) {most most' : Nat}
    (h : most ≤ most') : (placePlan (config.within most) plan.rooms).parts.Sublist
      (placePlan (config.within most') plan.rooms).parts := by
  rw [placePlan_eq,placePlan_eq,placeRooms_eq,placeRooms_eq]
  refine flatMap_placements_sublist (·.parts) h plan.rooms fun room rect => ?_
  rw [placeRoom_eq,placeRoom_eq]
  exact (Pinning.rects_pin_sublist h).map _

theorem filter_failures_pinParts (room : Room α) (rect : Rect α) (most most' : Nat) :
    (room.pinParts rect most).failures.filter (fun f => !f.isOutOfPasses) =
      (room.pinParts rect most').failures.filter (fun f => !f.isOutOfPasses) := by
  rw [Room.pinParts,Room.pinParts,Pinning.filter_not_isOutOfPasses_failures_pin,
    Pinning.filter_not_isOutOfPasses_failures_pin]

/-- A plan under one bound on the passes and under a larger one. -/
structure Plan.Raised (plan : Plan α) (config : LayoutConfig α) (most most' : Nat) : Prop where
  rooms : (placePlan (config.within most) plan.rooms).rooms.Sublist
    (placePlan (config.within most') plan.rooms).rooms
  parts : (placePlan (config.within most) plan.rooms).parts.Sublist
    (placePlan (config.within most') plan.rooms).parts
  /-- Under any bound, what is told is told of the origin, of the rooms, or of the parts of a room
  in its place. -/
  told : ∀ bound, (placePlan (config.within bound) plan.rooms).failures =
    originFailures config.originPolicy plan.rooms ++ plan.roomFailures (config.within bound) ++
      (placePlan (config.within bound) plan.rooms).rooms.flatMap
        (plan.partFailures (config.within bound))
  roomCauses : (plan.roomFailures (config.within most)).filter (fun f => !f.isOutOfPasses) =
    (plan.roomFailures (config.within most')).filter fun f => !f.isOutOfPasses
  partCauses : ∀ placed ∈ (placePlan (config.within most) plan.rooms).rooms,
    (plan.partFailures (config.within most) placed).filter (fun f => !f.isOutOfPasses) =
      (plan.partFailures (config.within most') placed).filter fun f => !f.isOutOfPasses
  /-- Rooms that are cut off under the larger bound are cut off under the smaller one. -/
  remaining : ∀ passes' names',
    .outOfPasses passes' names' ∈ plan.roomFailures (config.within most') →
      ∃ passes names, .outOfPasses passes names ∈ plan.roomFailures (config.within most) ∧
        names'.Sublist names
  /-- No room is cut off when there is a pass for every id. -/
  enough : (plan.rooms.map (·.id)).toFinset.card ≤ most' →
    ∀ f ∈ plan.roomFailures (config.within most'), f.isOutOfPasses = false

/-- Raising the bound on the passes only adds to a placement. -/
theorem placePlan_raised (plan : Plan α) (config : LayoutConfig α) {most most' : Nat}
    (h : most ≤ most') : plan.Raised config most most' where
  rooms := rooms_placePlan_sublist plan config h
  parts := parts_placePlan_sublist plan config h
  told := fun bound => failures_placePlan plan (config.within bound)
  roomCauses := by
    unfold Plan.roomFailures LayoutConfig.within
    split
    · rfl
    · rw [Plan.pinRooms,Plan.pinRooms,Pinning.filter_not_isOutOfPasses_failures_pin,
        Pinning.filter_not_isOutOfPasses_failures_pin]
  partCauses := by
    intro placed _
    rw [Plan.partFailures,Plan.partFailures,List.filter_flatMap,List.filter_flatMap]
    exact List.flatMap_congr fun room _ => filter_failures_pinParts room placed.rect most most'
  remaining := by
    intro passes' names' hmem
    unfold Plan.roomFailures LayoutConfig.within at hmem ⊢
    split at hmem
    · cases hmem
    · rename_i hallowed
      obtain ⟨hlt,hf⟩ := Pinning.mem_overrun.mp (Pinning.outOfPasses_mem_pin_iff.mp hmem)
      obtain ⟨rfl,rfl⟩ := Failure.outOfPasses.inj hf
      refine ⟨most,_,?_,(Pinning.cutOff_sublist h).map _⟩
      rw [if_neg hallowed]
      exact Pinning.outOfPasses_mem_pin_iff.mpr (Pinning.mem_overrun.mpr ⟨h.trans_lt hlt,rfl⟩)
  enough := by
    intro hmost f hf
    unfold Plan.roomFailures LayoutConfig.within at hf
    split at hf
    · cases hf
    · exact Pinning.isOutOfPasses_of_mem_pin ((ids_rooms plan.rooms).symm ▸ hmost) hf

/-- The homestead from the last room to the first. A single pass leaves out its shed and a seat. -/
def homesteadPlan : Plan Rat := ⟨homesteadBackwards,[],[]⟩

theorem placePlan_raised_homestead :
    1 ≤ 4 ∧
    (placePlan (LayoutConfig.standard.within 1) homesteadPlan.rooms).failures =
      [.cycle ["right","left"],.outOfPasses 1 ["shed"],.outOfPasses 1 ["hall.seat"]] ∧
    (placePlan (LayoutConfig.standard.within 4) homesteadPlan.rooms).failures =
      [.cycle ["right","left"]] ∧
    (homesteadPlan.rooms.map (·.id)).toFinset.card ≤ 4 ∧
    homesteadPlan.Raised .standard 1 4 :=
  ⟨by decide,by decide +kernel,by decide +kernel,by decide +kernel,
    placePlan_raised homesteadPlan .standard (by decide)⟩

end Blueprint
