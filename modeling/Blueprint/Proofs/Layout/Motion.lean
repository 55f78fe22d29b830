import Blueprint.Layout.Lint
import Blueprint.Proofs.Layout.Placement
import Blueprint.Proofs.Pinning.Motion

/-!
Moving a room of a plan. The room and all rooms that hang on it move, each with what belongs to it,
and nothing else changes: not the other rooms, not the failures, and not the warnings.
-/

namespace Blueprint

variable (v : Rat × Rat)

/-! ### The plan -/

/-- A room that is pinned with another offset. -/
def Room.moveBy (room : Room Rat) : Room Rat := { room with toBlock := room.toBlock.moveBy v }

/-- The rooms, of which the first one with an id is moved. -/
def moveFirst (r : String) : List (Room Rat) → List (Room Rat)
  | [] => []
  | room :: rooms =>
    if room.id = r then room.moveBy v :: rooms else room :: moveFirst r rooms

def Plan.moveRoom (plan : Plan Rat) (r : String) : Plan Rat :=
  { plan with rooms := moveFirst v r plan.rooms }

/-- A room if it has another id, else the moved room. -/
def Room.movedIf (r : String) (room : Room Rat) : Room Rat :=
  if room.id = r then room.moveBy v else room

/-- A block if it has another id, else the moved block. -/
def Block.movedIf (r : String) (b : Block Rat) : Block Rat := if b.id = r then b.moveBy v else b

theorem Room.toBlock_movedIf (r : String) (room : Room Rat) :
    (room.movedIf v r).toBlock = room.toBlock.movedIf v r := by
  unfold movedIf Block.movedIf
  split <;> rfl

@[simp] theorem Room.id_movedIf (r : String) (room : Room Rat) :
    (room.movedIf v r).id = room.id := by
  unfold movedIf
  split <;> rfl

theorem Block.keepsAttachment_movedIf (r : String) :
    Pinning.KeepsAttachment (Block.movedIf v r) where
  id b := by
    unfold movedIf
    split <;> rfl
  attachTo b := by
    unfold movedIf
    split <;> rfl

/-- The first rooms are the same, with the moved room among them. -/
theorem firstBy_moveFirst {r : String} {seen : List String} (hr : r ∉ seen)
    (rooms : List (Room Rat)) : firstBy (·.id) seen (moveFirst v r rooms) =
      (firstBy (·.id) seen rooms).map (Room.movedIf v r) := by
  induction rooms generalizing seen with
  | nil => rfl
  | cons room rooms ih =>
    by_cases hid : room.id = r
    · subst hid
      -- no later room of the same id is among the first ones
      have hrest : (firstBy (·.id) (room.id :: seen) rooms).map (Room.movedIf v room.id) =
          firstBy (·.id) (room.id :: seen) rooms := by
        refine (List.map_congr_left fun q hq => if_neg fun he => ?_).trans (List.map_id _)
        exact not_mem_map_firstBy List.mem_cons_self (List.mem_map.mpr ⟨q,hq,he⟩)
      simp [moveFirst,firstBy,Room.moveBy,Room.movedIf,Block.moveBy,hr,hrest]
    · have hr' : r ∉ room.id :: seen := by simpa [Ne.symm hid] using hr
      rw [moveFirst,if_neg hid,firstBy,firstBy]
      split
      · exact ih hr
      · rw [List.map_cons,ih hr',Room.movedIf,if_neg hid]

theorem redrawn_moveFirst (r : String) (rooms : List (Room Rat)) :
    Pinning.Redrawn (Block.movedIf v r) .rooms ((moveFirst v r rooms).map Room.toBlock) .rooms
      (rooms.map Room.toBlock) where
  keeps := Block.keepsAttachment_movedIf v r
  reserved := rfl
  ids := by
    induction rooms with
    | nil => rfl
    | cons room rooms ih =>
      rw [moveFirst]
      split
      · rfl
      · simp [ih]
  table := by
    rw [firstDeclared_rooms,firstDeclared_rooms,Plan.firstRooms,Plan.firstRooms,
      firstBy_moveFirst v List.not_mem_nil,List.map_map,List.map_map]
    exact List.map_congr_left fun room _ => room.toBlock_movedIf v r

/-! ### What moves along -/

open Pinning in
/-- The attachments of a room lead to another one. Every room hangs on itself. -/
def Plan.Hangs {α : Type} (plan : Plan α) (q r : String) : Prop :=
  LeadsTo .rooms (firstDeclared (plan.rooms.map Room.toBlock)) q r

open Classical in
/-- How far the rooms move if one of them is moved. -/
noncomputable def Plan.shift (plan : Plan Rat) (r q : String) : Rat × Rat :=
  if plan.Hangs q r then v else (0,0)

section Hangs

open Pinning

variable {v} {plan : Plan Rat} {r : String}

theorem Plan.hangs_of_atReserved {q : String}
    (h : AtReserved .rooms (firstDeclared (plan.rooms.map Room.toBlock)) q) :
    plan.Hangs q r ↔ q = r := by
  constructor
  · intro hangs
    rcases hangs.cases_head with he | ⟨t,hatt,_⟩
    · exact he
    · exact absurd h hatt.not_atReserved
  · rintro rfl
    exact .refl

theorem Plan.hangs_of_attachedTo {q t : String}
    (h : AttachedTo .rooms (firstDeclared (plan.rooms.map Room.toBlock)) q t) :
    plan.Hangs q r ↔ q = r ∨ plan.Hangs t r := by
  constructor
  · intro hangs
    rcases hangs.cases_head with he | ⟨s,hs,hangs⟩
    · exact Or.inl he
    · exact Or.inr (hs.unique h ▸ hangs)
  · rintro (rfl | hangs)
    · exact .refl
    · exact hangs.head h

/-- What a room with a place is attached to does not hang on the room. -/
theorem Plan.not_hangs_of_grounded {q t : String}
    (hg : Grounded .rooms (firstDeclared (plan.rooms.map Room.toBlock)) q)
    (h : AttachedTo .rooms (firstDeclared (plan.rooms.map Room.toBlock)) q t) :
    ¬ plan.Hangs t q := fun hangs => hg.not_onCycle (.head' h hangs)

end Hangs

variable (plan : Plan Rat) (r : String) (maxPasses : Nat)

open Classical in
/-- The moved room is pinned to a target that stays, and all that hangs on it to a target that moved
before. -/
theorem rects_pin_moveRoom :
    (pin .rooms maxPasses id ((moveFirst v r plan.rooms).map Room.toBlock)).rects =
      (pin .rooms maxPasses id (plan.rooms.map Room.toBlock)).rects.map fun p =>
        (p.1,p.2.moveBy (plan.shift v r p.1)) := by
  refine (redrawn_moveFirst v r plan.rooms).rects_eq (plan.shift v r) (fun b hb => ?_)
    (fun b hg hatt target => ?_) maxPasses id
  · rw [Plan.shift,Block.movedIf]
    simp only [Plan.hangs_of_atReserved hb]
    split
    · exact b.placeAt_moveBy v _
    · rw [Rect.moveBy_zero]
  · by_cases hid : b.id = r
    · subst hid
      have hrest : plan.shift v b.id b.attachTo.target = (0,0) :=
        if_neg (Plan.not_hangs_of_grounded hg hatt)
      have hself : plan.shift v b.id b.id = v := if_pos .refl
      rw [hrest,hself,Rect.moveBy_zero,Block.movedIf,if_pos rfl,Block.placeAt_moveBy]
    · have hangs : plan.Hangs b.id r ↔ plan.Hangs b.attachTo.target r :=
        (Plan.hangs_of_attachedTo hatt).trans (or_iff_right hid)
      have halong : plan.shift v r b.id = plan.shift v r b.attachTo.target :=
        if_congr hangs rfl rfl
      rw [halong,Block.movedIf,if_neg hid,Rect.corner_moveBy,Pinning.placeAt_point_moveBy]

/-! ### The placement -/

/-- Rooms that move, each as far as its id says, with their parts. -/
def Placement.moveBy (shift : String → Rat × Rat) (p : Placement Rat) : Placement Rat where
  rooms := p.rooms.map fun room => room.moveBy (shift room.id)
  parts := p.parts.map fun part => part.moveBy (shift part.key.room)
  failures := p.failures

@[simp] theorem Placement.rooms_moveBy (shift : String → Rat × Rat) (p : Placement Rat) :
    (p.moveBy shift).rooms = p.rooms.map fun room => room.moveBy (shift room.id) := rfl

/-- Parts are pinned to their room, wherever it is. -/
theorem Room.pinParts_moveBy (room : Room Rat) (rect : Rect Rat) :
    (room.pinParts (rect.moveBy v) maxPasses).rects =
      (room.pinParts rect maxPasses).rects.map (fun p => (p.1,p.2.moveBy v)) ∧
    (room.pinParts (rect.moveBy v) maxPasses).failures =
      (room.pinParts rect maxPasses).failures := by
  have hreserved : (Namespace.parts (rect.moveBy v)).reserved =
      (Namespace.parts rect).reserved := rfl
  have hsame := Pinning.Redrawn.refl hreserved (room.parts.map Part.toBlock)
  have halong (b : Block Rat) (target : Rect Rat) :
      Pinning.placeAt b ((target.moveBy v).corner b.attachTo.corner) =
        (Pinning.placeAt b (target.corner b.attachTo.corner)).moveBy v := by
    rw [Rect.corner_moveBy,Pinning.placeAt_point_moveBy]
  exact ⟨hsame.rects_eq (fun _ => v) (fun b _ => halong b rect)
    (fun b _ _ target => halong b target) _ _,hsame.failures_eq _ _⟩

theorem placeRoom_movedIf (room : Room Rat) (rect : Rect Rat) :
    placeRoom maxPasses (room.movedIf v r) rect = placeRoom maxPasses room rect := by
  unfold Room.movedIf
  split <;> rfl

theorem placeRoom_moveBy (shift : String → Rat × Rat) (room : Room Rat) (rect : Rect Rat) :
    placeRoom maxPasses room (rect.moveBy (shift room.id)) =
      (placeRoom maxPasses room rect).moveBy shift := by
  obtain ⟨hrects,hfailures⟩ := room.pinParts_moveBy (shift room.id) maxPasses rect
  rw [placeRoom_eq,placeRoom_eq,hrects,hfailures,Placement.moveBy,List.map_map,List.map_map]
  rfl

theorem lookup_map_moveBy (shift : String → Rat × Rat) (places : List (String × Rect Rat))
    (id : String) : (places.map fun p => (p.1,p.2.moveBy (shift p.1))).lookup id =
      (places.lookup id).map (·.moveBy (shift id)) := by
  induction places with
  | nil => rfl
  | cons p places ih =>
    obtain ⟨name,rect⟩ := p
    rw [List.map_cons,List.lookup_cons,List.lookup_cons,ih]
    by_cases hid : id = name
    · subst hid
      simp
    · have hbeq : (id == name) = false := by simpa using hid
      rw [hbeq]

theorem placements_moveRoom : placements maxPasses (moveFirst v r plan.rooms) =
    (placements maxPasses plan.rooms).map (Placement.moveBy (plan.shift v r)) := by
  rw [placements,placements,Plan.firstRooms,firstBy_moveFirst v List.not_mem_nil,
    rects_pin_moveRoom,List.flatMap_map,List.map_flatMap]
  refine List.flatMap_congr fun room _ => ?_
  rw [lookup_map_moveBy,Room.id_movedIf]
  cases (pin .rooms maxPasses id (plan.rooms.map Room.toBlock)).rects.lookup room.id with
  | none => rfl
  | some rect => simp [placeRoom_movedIf,placeRoom_moveBy]

theorem placeRooms_moveRoom : placeRooms maxPasses (moveFirst v r plan.rooms) =
    (placeRooms maxPasses plan.rooms).moveBy (plan.shift v r) := by
  have hfailures := (redrawn_moveFirst v r plan.rooms).failures_eq maxPasses id
  rw [placeRooms_eq,placeRooms_eq,placements_moveRoom,hfailures]
  simp only [Placement.moveBy,List.flatMap_map,List.map_flatMap]

theorem originFailures_moveFirst (policy : OriginPolicy) (rooms : List (Room Rat)) :
    originFailures policy (moveFirst v r rooms) = originFailures policy rooms := by
  have hany : (moveFirst v r rooms).any attachesToOrigin = rooms.any attachesToOrigin := by
    induction rooms with
    | nil => rfl
    | cons room rooms ih =>
      rw [moveFirst]
      split
      · rfl
      · rw [List.any_cons,List.any_cons,ih]
  have hempty : (moveFirst v r rooms).isEmpty = rooms.isEmpty := by
    cases rooms with
    | nil => rfl
    | cons room rooms =>
      rw [moveFirst]
      split <;> rfl
  unfold originFailures
  rw [hempty,hany]

/-- A moved room takes along the rooms that hang on it and the parts of all of them. -/
theorem placePlan_moveRoom (config : LayoutConfig Rat) :
    placePlan config (moveFirst v r plan.rooms) =
      (placePlan config plan.rooms).moveBy (plan.shift v r) := by
  unfold placePlan
  simp only [originFailures_moveFirst,placeRooms_moveRoom]
  split <;> rfl

end Blueprint
