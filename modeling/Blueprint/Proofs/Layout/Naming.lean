import Blueprint.Proofs.Layout.Equations
import Blueprint.Proofs.Layout.Reordering
import Blueprint.Proofs.Plan.Reference
import Blueprint.Proofs.Plan.Validity

/-!
The names that attachments use. Every id of a valid plan can be written in an attachment, and leads
to the room or part that bears it, save the two reserved names: a room that bears the name of the
origin, and a part that bears the name for its own room, cannot be reached by any attachment.
-/

namespace Blueprint

/-- The rectangles of a layout solve the equations of its plan. -/
theorem equations_layout (plan : Plan Rat) (config : LayoutConfig Rat) :
    Equations plan (plan.layout config).roomRects (plan.layout config).partRects := by
  have hrooms : (plan.layout config).roomRects = (placePlan config plan.rooms).roomRects := rfl
  have hparts : (plan.layout config).partRects = (placePlan config plan.rooms).partRects := rfl
  rw [hrooms,hparts]
  rcases placePlan_rects config plan.rooms with ⟨hr,hp⟩ | ⟨hr,hp⟩
  · rw [hr,hp]
    exact equations_nil
  · rw [hr,hp]
    exact equations_placeRooms

/-- What attachments to the ids of a plan come to in a layout. -/
structure Plan.IdsReached (plan : Plan Rat) (layout : Layout Rat) : Prop where
  /-- Every id can be written in an attachment. -/
  writtenRoom : ∀ room ∈ plan.rooms, ∀ corner,
    Attachment.parse (Attachment.text ⟨room.id,corner⟩) = .ok ⟨room.id,corner⟩
  writtenPart : ∀ room ∈ plan.rooms, ∀ part ∈ room.parts, ∀ corner,
    Attachment.parse (Attachment.text ⟨part.id,corner⟩) = .ok ⟨part.id,corner⟩
  /-- A room that is attached to a declared one sits on a corner of this, which has its place,
  unless its name is that of the origin and hidden by it. -/
  room : ∀ p ∈ layout.roomRects, ∀ room target, plan.room? p.1 = some room →
    plan.room? room.attachTo.target = some target →
      (target.id ≠ originName ∧ ∃ rect, (target.id,rect) ∈ layout.roomRects ∧
        room.toBlock.Sits (rect.corner room.attachTo.corner) p.2) ∨
      (target.id = originName ∧ room.toBlock.Sits ⟨0,0⟩ p.2)
  /-- The same of parts, among which the own room hides one of its name. -/
  part : ∀ p ∈ layout.partRects, ∀ part target, plan.part? p.1 = some part →
    plan.part? ⟨p.1.room,part.attachTo.target⟩ = some target →
      (target.id ≠ parentName ∧ ∃ rect, (⟨p.1.room,target.id⟩,rect) ∈ layout.partRects ∧
        part.toBlock.Sits (rect.corner part.attachTo.corner) p.2) ∨
      (target.id = parentName ∧ ∃ own, (p.1.room,own) ∈ layout.roomRects ∧
        part.toBlock.Sits (own.corner part.attachTo.corner) p.2)

/-- Every id of a valid plan is reached but the reserved ones. -/
theorem layout_idsReached (plan : Plan Rat) (config : LayoutConfig Rat)
    (hvalid : plan.isValid = true) : plan.IdsReached (plan.layout config) where
  writtenRoom := fun _ hroom _ => Attachment.parse_text (Plan.plainId_room hvalid hroom).ne_empty
  writtenPart := fun _ hroom _ hpart _ =>
    Attachment.parse_text (Plan.plainId_part hvalid hroom hpart).ne_empty
  room := by
    intro p hp room target hroom htarget
    obtain ⟨room',hroom',point,hpoint,hsits⟩ := (equations_layout plan config).room p hp
    obtain rfl : room' = room := Option.some.inj (hroom'.symm.trans hroom)
    rw [Plan.id_of_room? htarget]
    rcases hpoint with ⟨horigin,rfl⟩ | ⟨hne,rect,hrect,rfl⟩
    · exact Or.inr ⟨horigin,hsits⟩
    · exact Or.inl ⟨hne,rect,hrect,hsits⟩
  part := by
    intro p hp part target hpart htarget
    obtain ⟨part',hpart',rect,hrect,hsits⟩ := (equations_layout plan config).part p hp
    obtain rfl : part' = part := Option.some.inj (hpart'.symm.trans hpart)
    rw [Plan.id_of_part? htarget]
    rcases hrect with ⟨hparent,hrect⟩ | ⟨hne,hrect⟩
    · exact Or.inr ⟨hparent,rect,hrect,hsits⟩
    · exact Or.inl ⟨hne,rect,hrect,hsits⟩

/-- A room that bears the name of the origin, another at its top right corner, and a part that bears
the name for its own room, with a seat at its bottom left corner. -/
def namesakes : Plan Rat where
  rooms :=
    [unitRoom originName originName [],
      { unitRoom "shed" originName
          [unitPart parentName parentName,
            { unitPart "seat" parentName with attachTo := ⟨parentName,.bottomLeft⟩ }] with
        attachTo := ⟨originName,.topRight⟩ }]
  doors := []
  windows := []

theorem layout_idsReached_namesakes :
    namesakes.isValid = true ∧ (namesakes.layout .standard).rooms.map (·.id) = [originName,"shed"] ∧
    (namesakes.layout .standard).parts.map (·.key.part) = [parentName,"seat"] ∧
    namesakes.IdsReached (namesakes.layout .standard) :=
  ⟨by decide +kernel,by decide +kernel,by decide +kernel,
    layout_idsReached namesakes .standard (by decide +kernel)⟩

/-- The shed is attached to the top right corner of a declared room, and both have their places, but
not so that the corners meet. -/
theorem corners_apart_namesakes :
    namesakes.isValid = true ∧
    (namesakes.room? "shed").map (fun room => (room.anchor,room.attachTo,room.offset)) =
      some (.topLeft,⟨originName,.topRight⟩,(0,0)) ∧
    (namesakes.layout .standard).roomRects = [(originName,⟨0,0,1,1⟩),("shed",⟨0,0,1,1⟩)] ∧
    (⟨0,0,1,1⟩ : Rect Rat).corner .topRight = ⟨1,0⟩ ∧
    (⟨0,0,1,1⟩ : Rect Rat).corner .topLeft = ⟨0,0⟩ := by
  decide +kernel

end Blueprint
