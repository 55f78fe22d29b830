import Blueprint.Proofs.Layout.Origin
import Blueprint.Proofs.Pinning.Repetition

/-!
Plans that declare an id twice. A later declaration of a room, and of a part in its room, is ignored
wherever a plan is read: its block, its parts, its name and its furnishings. The layout is that of
the plan without it, and tells it once.
-/

namespace Blueprint

variable {α : Type}

/-! ### A plan without later declarations -/

/-- The room with the first declaration of each part. -/
def Room.dedup (room : Room α) : Room α :=
  { room with parts := room.parts.eraseDupsBy (·.id == ·.id) }

/-- The plan with the first declaration of each room, and of each part in it. -/
def Plan.dedup (plan : Plan α) : Plan α :=
  { plan with rooms := (plan.rooms.eraseDupsBy (·.id == ·.id)).map Room.dedup }

/-- The ids of the part declarations that are dropped. -/
def Room.droppedParts (room : Room α) : List String :=
  (room.parts.map (·.id)).diff (room.dedup.parts.map (·.id))

/-- The ids of the room declarations that are dropped. -/
def Plan.droppedRooms (plan : Plan α) : List String :=
  (plan.rooms.map (·.id)).diff (plan.dedup.rooms.map (·.id))

/-- The first items of their keys are those that the library keeps. -/
theorem firstBy_eq_eraseDupsBy {β : Type} {key : β → String} (seen : List String) (l : List β) :
    firstBy key seen l = (l.filter (key · ∉ seen)).eraseDupsBy (key · == key ·) := by
  induction l generalizing seen with
  | nil => rfl
  | cons b l ih =>
    by_cases hb : key b ∈ seen
    · simp [firstBy,hb,ih]
    · have hrest : l.filter (key · ∉ key b :: seen) =
          (l.filter (key · ∉ seen)).filter fun c => decide ((key c == key b) = false) := by
        rw [List.filter_filter]
        exact List.filter_congr fun c _ => by simp
      rw [firstBy,List.filter_cons_of_pos (by simpa using hb),List.eraseDupsBy_cons,← hrest,← ih]
      simp [hb]

theorem Room.parts_dedup (room : Room α) : room.dedup.parts = firstBy (·.id) [] room.parts := by
  simp [dedup,firstBy_eq_eraseDupsBy]

theorem Plan.rooms_dedup (plan : Plan α) :
    plan.dedup.rooms = (Plan.firstRooms plan.rooms).map Room.dedup := by
  simp [dedup,firstRooms,firstBy_eq_eraseDupsBy]

theorem firstBy_firstBy {β : Type} (key : β → String) (l : List β) :
    firstBy key [] (firstBy key [] l) = firstBy key [] l :=
  firstBy_of_nodup nodup_map_firstBy (by simp)

theorem find?_firstBy {β : Type} {key : β → String} (l : List β) (k : String) :
    (firstBy key [] l).find? (key · == k) = l.find? (key · == k) := by
  refine Option.ext fun b => ?_
  rw [find?_key_eq_some_iff nodup_map_firstBy,mem_firstBy_nil_iff]
  constructor
  · rintro ⟨hb,rfl⟩
    exact hb
  · intro hb
    have hk : key b = k := by simpa using List.find?_some hb
    exact ⟨hk ▸ hb,hk⟩

/-- The first rooms of a plan are all that is left of its rooms. -/
theorem Plan.firstRooms_dedup (plan : Plan α) :
    Plan.firstRooms plan.dedup.rooms = (Plan.firstRooms plan.rooms).map Room.dedup := by
  have hd : (((Plan.firstRooms plan.rooms).map Room.dedup).map (·.id)).Nodup := by
    rw [List.map_map]
    exact nodup_map_firstBy
  rw [rooms_dedup]
  exact firstBy_of_nodup hd (by simp)

theorem Room.blocks_dedup (room : Room α) : room.dedup.parts.map Part.toBlock =
    Pinning.firstDeclared (room.parts.map Part.toBlock) := by
  rw [Pinning.firstDeclared_eq_firstBy,firstBy_map,parts_dedup]

theorem Plan.blocks_dedup (plan : Plan α) : plan.dedup.rooms.map Room.toBlock =
    Pinning.firstDeclared (plan.rooms.map Room.toBlock) := by
  rw [firstDeclared_rooms,rooms_dedup,List.map_map]
  rfl

/-- The parts that are dropped are those that the pinning tells. -/
theorem Room.droppedParts_eq (room : Room α) :
    room.droppedParts = Pinning.laterDeclared (room.parts.map Part.toBlock) := by
  rw [Pinning.laterDeclared_eq_diff,← blocks_dedup,droppedParts,Pinning.ids,Pinning.ids,
    List.map_map,List.map_map]
  rfl

theorem Plan.droppedRooms_eq (plan : Plan α) :
    plan.droppedRooms = Pinning.laterDeclared (plan.rooms.map Room.toBlock) := by
  rw [Pinning.laterDeclared_eq_diff,← blocks_dedup,droppedRooms,Pinning.ids,Pinning.ids,
    List.map_map,List.map_map]
  rfl

/-! ### Its placement -/

/-- The placement, telling of no later declarations. -/
def Placement.dropDuplicates (p : Placement α) : Placement α :=
  { p with failures := p.failures.filter fun f => !f.isDuplicate }

variable [Scalar α] (maxPasses : Nat)

theorem Room.pinParts_dedup (room : Room α) (rect : Rect α) :
    (room.dedup.pinParts rect maxPasses).rects = (room.pinParts rect maxPasses).rects ∧
    (room.dedup.pinParts rect maxPasses).failures =
      (room.pinParts rect maxPasses).failures.filter fun f => !f.isDuplicate := by
  rw [pinParts,pinParts,blocks_dedup]
  exact ⟨Pinning.rects_pin_firstDeclared _ _ _ _,Pinning.failures_pin_firstDeclared _ _ _ _⟩

theorem placeRoom_dedup (room : Room α) (rect : Rect α) :
    placeRoom maxPasses room.dedup rect = (placeRoom maxPasses room rect).dropDuplicates := by
  obtain ⟨hrects,hfailures⟩ := room.pinParts_dedup maxPasses rect
  have hname : room.dedup.partName? = room.partName? := by
    funext id
    rw [Room.partName?,Room.partName?,Room.parts_dedup,find?_firstBy]
  rw [placeRoom_eq,placeRoom_eq,hrects,hfailures,hname]
  rfl

variable (plan : Plan α)

theorem placements_dedup : placements maxPasses plan.dedup.rooms =
    (placements maxPasses plan.rooms).map Placement.dropDuplicates := by
  rw [placements,placements,Plan.firstRooms_dedup,Plan.blocks_dedup,
    Pinning.rects_pin_firstDeclared,List.flatMap_map,List.map_flatMap]
  refine List.flatMap_congr fun room _ => ?_
  rw [List.map_map]
  exact List.map_congr_left fun rect _ => placeRoom_dedup maxPasses room rect

theorem placeRooms_dedup : placeRooms maxPasses plan.dedup.rooms =
    (placeRooms maxPasses plan.rooms).dropDuplicates := by
  rw [placeRooms_eq,placeRooms_eq,placements_dedup,Plan.blocks_dedup,
    Pinning.failures_pin_firstDeclared,Placement.dropDuplicates]
  simp only [List.flatMap_map,List.filter_append,List.filter_flatMap]
  rfl

/-- The duplicates told of a placement are the dropped rooms, then the dropped parts of every room
in its place. -/
theorem filter_isDuplicate_placeRooms :
    (placeRooms maxPasses plan.rooms).failures.filter Failure.isDuplicate =
      plan.droppedRooms.map .duplicate ++
        (placeRooms maxPasses plan.rooms).rooms.flatMap fun placed =>
          ((plan.room? placed.id).toList.flatMap Room.droppedParts).map fun id =>
            .duplicate (PartKey.mk placed.id id).text := by
  simp only [placeRooms_eq,List.filter_append,Pinning.filter_isDuplicate_failures_pin,
    List.filter_flatMap,List.flatMap_assoc,flatMap_placements,placeRoom_eq,
    List.flatMap_singleton,Plan.droppedRooms_eq]
  refine congrArg (_ ++ ·) (List.flatMap_congr fun room hroom =>
    List.flatMap_congr fun rect _ => ?_)
  rw [Plan.mem_firstRooms_iff.mp hroom,Room.pinParts,Pinning.filter_isDuplicate_failures_pin]
  simp [Room.droppedParts_eq]

/-! ### Its layout -/

/-- The same settings, with no regard to whether a room is attached to the origin. -/
def LayoutConfig.ignoringOrigin (config : LayoutConfig α) : LayoutConfig α :=
  { config with originPolicy := .ignore }

omit [Scalar α] in
theorem originFailures_ignore (rooms : List (Room α)) : originFailures .ignore rooms = [] := by
  unfold originFailures
  split <;> rfl

theorem placePlan_ignoringOrigin (config : LayoutConfig α) (rooms : List (Room α)) :
    placePlan config.ignoringOrigin rooms = placeRooms config.maxPasses rooms := by
  rw [placePlan_eq]
  simp [LayoutConfig.ignoringOrigin,refused,originFailures_ignore]

/-- Whatever the policy, the same rooms and parts are placed. -/
theorem placePlan_dedup (config : LayoutConfig α) : placePlan config plan.dedup.rooms =
    { placePlan config plan.rooms with
      failures := (placePlan config plan.dedup.rooms).failures } := by
  rw [placePlan_eq config plan.dedup.rooms,placePlan_eq config plan.rooms,placeRooms_dedup]
  rfl

omit [Scalar α] in
theorem failures_dropDuplicates (p : Placement α) :
    p.dropDuplicates.failures = p.failures.filter fun f => !f.isDuplicate := rfl

theorem furnishingsOf_dedup (p : Placement α) (room : Room α) :
    p.furnishingsOf room.dedup = p.furnishingsOf room := by
  have hfirst : firstBy (·.id) [] room.dedup.parts = firstBy (·.id) [] room.parts := by
    rw [Room.parts_dedup,firstBy_firstBy]
  unfold Placement.furnishingsOf
  rw [hfirst]
  rfl

/-- The failures of the openings of a plan. -/
def Plan.openingFailures (config : LayoutConfig α) : List Failure :=
  (plan.openings.map (placeOpening config (placePlan config plan.rooms))).filterMap fun
    | .ok _ => none
    | .error f => some f

theorem isDuplicate_of_mem_openingFailures {config : LayoutConfig α} {f : Failure}
    (h : f ∈ plan.openingFailures config) : f.isDuplicate = false := by
  obtain ⟨attempt,hattempt,hf⟩ := List.mem_filterMap.mp h
  obtain ⟨o,_,rfl⟩ := List.mem_map.mp hattempt
  cases hplace : placeOpening config (placePlan config plan.rooms) o with
  | ok placed => simp [hplace] at hf
  | error e =>
    obtain rfl : e = f := by simpa [hplace] using hf
    obtain ⟨_,rfl⟩ := wallReference_of_placeOpening hplace
    rfl

theorem failures_layout (config : LayoutConfig α) : (plan.layout config).failures =
    (placePlan config plan.rooms).failures ++ plan.openingFailures config := rfl

/-- Openings see the rooms and parts in their places only. -/
theorem openingFailures_dedup (config : LayoutConfig α) :
    plan.dedup.openingFailures config = plan.openingFailures config := by
  rw [Plan.openingFailures,placePlan_dedup]
  rfl

/-- A plan is laid out as if it held no later declarations, and each of them is told once. -/
structure Plan.LaterIgnored (plan : Plan α) (config : LayoutConfig α) : Prop where
  /-- Nothing but the failures differs from the layout of the first declarations. -/
  shown : plan.layout config =
    { plan.dedup.layout config with failures := (plan.layout config).failures }
  failures : (plan.layout config.ignoringOrigin).failures.filter (fun f => !f.isDuplicate) =
    (plan.dedup.layout config.ignoringOrigin).failures
  /-- One failure for every room that is dropped, and one for every part that is dropped from a
  placed room. -/
  duplicates : (plan.layout config.ignoringOrigin).failures.filter Failure.isDuplicate =
    plan.droppedRooms.map .duplicate ++
      (plan.layout config.ignoringOrigin).rooms.flatMap fun placed =>
        ((plan.room? placed.id).toList.flatMap Room.droppedParts).map fun id =>
          .duplicate (PartKey.mk placed.id id).text

/-- Later declarations of an id are ignored. -/
theorem layout_laterIgnored (config : LayoutConfig α) : plan.LaterIgnored config where
  shown := by
    have hfurnishings (p : Placement α) : (Plan.firstRooms plan.dedup.rooms).flatMap
        p.furnishingsOf = (Plan.firstRooms plan.rooms).flatMap p.furnishingsOf := by
      rw [Plan.firstRooms_dedup,List.flatMap_map]
      exact List.flatMap_congr fun room _ => furnishingsOf_dedup p room
    have hsame : plan.dedup.layout config =
        { plan.layout config with failures := (plan.dedup.layout config).failures } := by
      unfold Plan.layout
      rw [placePlan_dedup]
      simp only [hfurnishings]
      rfl
    rw [hsame]
  failures := by
    have hkept : (plan.openingFailures config.ignoringOrigin).filter (fun f => !f.isDuplicate) =
        plan.openingFailures config.ignoringOrigin :=
      List.filter_eq_self.mpr fun f hf => by simp [isDuplicate_of_mem_openingFailures plan hf]
    rw [failures_layout,failures_layout,List.filter_append,hkept,openingFailures_dedup,
      placePlan_ignoringOrigin,placePlan_ignoringOrigin,placeRooms_dedup,failures_dropDuplicates]
  duplicates := by
    have hnone : (plan.openingFailures config.ignoringOrigin).filter Failure.isDuplicate = [] :=
      List.filter_eq_nil_iff.mpr fun f hf => by simp [isDuplicate_of_mem_openingFailures plan hf]
    have hrooms : (plan.layout config.ignoringOrigin).rooms =
        (placeRooms config.maxPasses plan.rooms).rooms :=
      congrArg Placement.rooms (placePlan_ignoringOrigin config plan.rooms)
    rw [failures_layout,List.filter_append,hnone,List.append_nil,hrooms,placePlan_ignoringOrigin,
      filter_isDuplicate_placeRooms]

end Blueprint
