import Blueprint.Proofs.Layout.PassBound
import Blueprint.Proofs.Layout.Policy

/-!
The errors of a layout. Of what a pinning tells, the errors are the causes of its stranded blocks,
whatever the bound on the passes: repeated ids and blocks cut off are warnings, and so is all that
is told of openings. A layout has errors exactly if something can never be placed, or the policy
refuses the plan.
-/

namespace Blueprint

def Failure.isError (f : Failure) : Bool := f.severity == .error

variable {α : Type} [Scalar α]

/-! ### The errors of a pinning -/

namespace Pinning

variable {ns : Namespace α} {qualify : String → String} {blocks : List (Block α)}

theorem isError_of_mem_causes {f : Failure} (h : f ∈ causes ns qualify blocks) :
    f.isError = true := by
  rcases kind_of_mem_causes h with ⟨_,_,rfl⟩ | ⟨_,rfl⟩ | ⟨_,_,rfl⟩ <;> rfl

/-- The bound on the passes does not show in the errors. -/
theorem filter_isError_failures_pin (ns : Namespace α) (maxPasses : Nat)
    (qualify : String → String) (blocks : List (Block α)) :
    (pin ns maxPasses qualify blocks).failures.filter Failure.isError =
      causes ns qualify blocks := by
  have hlater : ((laterDeclared blocks).map fun id => Failure.duplicate (qualify id)).filter
      Failure.isError = [] :=
    List.filter_eq_nil_iff.mpr fun f hf => by
      obtain ⟨_,_,rfl⟩ := List.mem_map.mp hf
      exact Bool.false_ne_true
  have hcauses : (causes ns qualify blocks).filter Failure.isError = causes ns qualify blocks :=
    List.filter_eq_self.mpr fun f hf => isError_of_mem_causes hf
  have hover : (overrun ns qualify maxPasses blocks).filter Failure.isError = [] :=
    List.filter_eq_nil_iff.mpr fun f hf => by
      obtain ⟨_,rfl⟩ := mem_overrun.mp hf
      exact Bool.false_ne_true
  rw [failures_pin_eq,List.filter_append,List.filter_append,hlater,hcauses,hover,List.nil_append,
    List.append_nil]

/-- Every block that leads nowhere is named by a cause, be it on a cycle told by another. -/
theorem exists_cause_naming (qualify : String → String) {id : String} (hid : id ∈ ids blocks)
    (h : ¬ Grounded ns (firstDeclared blocks) id) :
    ∃ f ∈ causes ns qualify blocks, qualify id ∈ f.entities := by
  have hstranded : id ∈ ids (stranded ns (firstDeclared blocks)) := by
    obtain ⟨b,hb,rfl⟩ := mem_ids.mp (mem_ids_firstDeclared.mpr hid)
    exact mem_ids_of_mem (mem_stranded.mpr ⟨hb,h⟩)
  have hnamed : qualify id ∈ (causes ns qualify blocks).flatMap Failure.entities := by
    rw [flatMap_entities_causes]
    exact List.mem_map_of_mem (mem_flatMap_tells_iff.mpr hstranded)
  exact List.mem_flatMap.mp hnamed

theorem causes_ne_nil_iff (ns : Namespace α) (qualify : String → String)
    (blocks : List (Block α)) : causes ns qualify blocks ≠ [] ↔
    ∃ b ∈ blocks, ¬ Grounded ns (firstDeclared blocks) b.id := by
  constructor
  · intro h
    obtain ⟨f,hf⟩ := List.exists_mem_of_ne_nil _ h
    obtain ⟨b,hb,_⟩ := mem_causes.mp hf
    obtain ⟨hb,hg⟩ := mem_stranded.mp hb
    exact ⟨b,(firstDeclared_sublist blocks).mem hb,hg⟩
  · rintro ⟨b,hb,hg⟩ hnone
    obtain ⟨f,hf,_⟩ := exists_cause_naming qualify (mem_ids_of_mem hb) hg
    rw [hnone] at hf
    cases hf

end Pinning

/-! ### The errors of a layout -/

/-- Following the attachments from the first room with this id never leads to the origin. -/
def Plan.NeverReachesOrigin (plan : Plan α) (id : String) : Prop :=
  ¬ Pinning.Grounded .rooms (Pinning.firstDeclared (plan.rooms.map Room.toBlock)) id

/-- Following the attachments from the first part with this id never leads to the room, which has
the given rectangle. -/
def Room.NeverReachesRoom (room : Room α) (rect : Rect α) (id : String) : Prop :=
  ¬ Pinning.Grounded (.parts rect) (Pinning.firstDeclared (room.parts.map Part.toBlock)) id

/-- The errors that are told of the rooms of a plan. -/
def Plan.roomErrors (plan : Plan α) (policy : OriginPolicy) : List Failure :=
  if refused policy plan.rooms then []
  else Pinning.causes .rooms id (plan.rooms.map Room.toBlock)

/-- The errors that are told of the parts of a room in its place. -/
def Plan.partErrors (plan : Plan α) (placed : PlacedRoom α) : List Failure :=
  (plan.room? placed.id).toList.flatMap fun room =>
    Pinning.causes (.parts placed.rect) (fun id => (PartKey.mk room.id id).text)
      (room.parts.map Part.toBlock)

variable (plan : Plan α) (config : LayoutConfig α)

theorem filter_isError_roomFailures :
    (plan.roomFailures config).filter Failure.isError = plan.roomErrors config.originPolicy := by
  unfold Plan.roomFailures Plan.roomErrors
  split
  · rfl
  · exact Pinning.filter_isError_failures_pin _ _ _ _

theorem filter_isError_partFailures (placed : PlacedRoom α) :
    (plan.partFailures config placed).filter Failure.isError = plan.partErrors placed := by
  rw [Plan.partFailures,List.filter_flatMap]
  exact List.flatMap_congr fun room _ => Pinning.filter_isError_failures_pin _ _ _ _

/-- The errors of a layout, in order: of the origin, of the rooms, and of the parts of every room
in its place. -/
theorem filter_isError_layout : (plan.layout config).failures.filter Failure.isError =
    (originFailures config.originPolicy plan.rooms).filter Failure.isError ++
      plan.roomErrors config.originPolicy ++
        (plan.layout config).rooms.flatMap plan.partErrors := by
  have hopenings : (plan.openingFailures config).filter Failure.isError = [] :=
    List.filter_eq_nil_iff.mpr fun f hf => by
      have hwall := isWallReference_of_mem_openingFailures hf
      cases f with
      | wallReference => exact Bool.false_ne_true
      | _ => cases hwall
  have hparts : ((plan.layout config).rooms.flatMap (plan.partFailures config)).filter
      Failure.isError = (plan.layout config).rooms.flatMap plan.partErrors := by
    rw [List.filter_flatMap]
    exact List.flatMap_congr fun placed _ => filter_isError_partFailures plan config placed
  rw [failures_layout,failures_placePlan,List.filter_append,List.filter_append,List.filter_append,
    hopenings,filter_isError_roomFailures,List.append_nil]
  exact congrArg _ hparts

theorem hasErrors_iff : (plan.layout config).hasErrors = true ↔
    (plan.layout config).failures.filter Failure.isError ≠ [] := by
  simp [Layout.hasErrors,Failure.isError]

omit [Scalar α] in
theorem filter_isError_originFailures_ne_nil_iff :
    (originFailures config.originPolicy plan.rooms).filter Failure.isError ≠ [] ↔
      config.originPolicy = .require ∧ plan.Adrift := by
  rw [originFailures_eq]
  by_cases h : plan.Adrift <;> cases config.originPolicy <;>
    simp [h,OriginPolicy.advisory,Failure.isError,Failure.severity]

theorem roomErrors_ne_nil_iff : plan.roomErrors config.originPolicy ≠ [] ↔
    ¬ (config.originPolicy = .require ∧ plan.Adrift) ∧
      ∃ room ∈ plan.rooms, plan.NeverReachesOrigin room.id := by
  rw [← refused_eq_true_iff,Plan.roomErrors]
  split
  · simp_all
  · rename_i hallowed
    rw [Pinning.causes_ne_nil_iff]
    simp [hallowed,Plan.NeverReachesOrigin]

theorem partErrors_ne_nil_iff (placed : PlacedRoom α) : plan.partErrors placed ≠ [] ↔
    ∃ room, plan.room? placed.id = some room ∧
      ∃ part ∈ room.parts, room.NeverReachesRoom placed.rect part.id := by
  rw [Plan.partErrors]
  cases plan.room? placed.id with
  | none => simp
  | some room =>
    have hcauses := Pinning.causes_ne_nil_iff (.parts placed.rect)
      (fun id => (PartKey.mk room.id id).text) (room.parts.map Part.toBlock)
    simpa [Room.NeverReachesRoom] using hcauses

/-- Some room never reaches the origin, some part of a placed room never reaches its room, or the
policy asks for a room at the origin and there is none. -/
def Plan.Failing (plan : Plan α) (config : LayoutConfig α) : Prop :=
  (∃ room ∈ plan.rooms, plan.NeverReachesOrigin room.id) ∨
    (∃ placed ∈ (plan.layout config).rooms, ∃ room, plan.room? placed.id = some room ∧
      ∃ part ∈ room.parts, room.NeverReachesRoom placed.rect part.id) ∨
    (config.originPolicy = .require ∧ plan.Adrift)

/-- A layout has errors exactly if something can never be placed or the plan is refused. -/
theorem hasErrors_layout_iff : (plan.layout config).hasErrors = true ↔ plan.Failing config := by
  have hparts : (plan.layout config).rooms.flatMap plan.partErrors ≠ [] ↔
      ∃ placed ∈ (plan.layout config).rooms, ∃ room, plan.room? placed.id = some room ∧
        ∃ part ∈ room.parts, room.NeverReachesRoom placed.rect part.id := by
    simp only [ne_eq,List.flatMap_eq_nil_iff,not_forall,exists_prop]
    exact exists_congr fun placed => and_congr_right fun _ => partErrors_ne_nil_iff plan placed
  rw [hasErrors_iff,filter_isError_layout]
  simp only [ne_eq,List.append_eq_nil_iff,not_and_or,or_assoc]
  rw [← ne_eq,← ne_eq,← ne_eq,filter_isError_originFailures_ne_nil_iff,roomErrors_ne_nil_iff,
    hparts,Plan.Failing]
  by_cases hrefused : config.originPolicy = .require ∧ plan.Adrift
  · exact iff_of_true (Or.inl hrefused) (Or.inr (Or.inr hrefused))
  · rw [iff_false_intro hrefused,not_false_eq_true,true_and,false_or,or_false]

/-- A room that never reaches the origin is named by an error, unless the whole plan is refused. -/
theorem exists_error_naming {room : Room α} (hroom : room ∈ plan.rooms)
    (h : plan.NeverReachesOrigin room.id)
    (hallowed : ¬ (config.originPolicy = .require ∧ plan.Adrift)) :
    ∃ f ∈ (plan.layout config).failures, f.severity = .error ∧ room.id ∈ f.entities := by
  have hid : room.id ∈ Pinning.ids (plan.rooms.map Room.toBlock) := by
    rw [ids_rooms]
    exact List.mem_map_of_mem hroom
  obtain ⟨f,hf,hnamed⟩ := Pinning.exists_cause_naming id hid h
  have hroomErrors : f ∈ plan.roomErrors config.originPolicy := by
    rw [Plan.roomErrors,if_neg (mt refused_eq_true_iff.mp hallowed)]
    exact hf
  have hmem : f ∈ (plan.layout config).failures.filter Failure.isError := by
    rw [filter_isError_layout,List.mem_append,List.mem_append]
    exact Or.inl (Or.inr hroomErrors)
  obtain ⟨hmem,herror⟩ := List.mem_filter.mp hmem
  exact ⟨f,hmem,beq_iff_eq.mp herror,hnamed⟩

/-- A larger bound on the passes clears no error: it places more rooms, and what is told of a room
or of the parts of a room in its place is told again. -/
theorem filter_isError_layout_sublist {most most' : Nat} (h : most ≤ most') :
    ((plan.layout (config.within most)).failures.filter Failure.isError).Sublist
      ((plan.layout (config.within most')).failures.filter Failure.isError) := by
  rw [filter_isError_layout,filter_isError_layout]
  exact ((rooms_placePlan_sublist plan config h).flatMap _).append_left _

end Blueprint
