import Blueprint.Layout.Lint
import Blueprint.Proofs.Layout.Motion

/-!
What belongs to the rooms of a layout: their parts, their shapes and furnishings, and the openings
in the walls of rooms and parts. All of it goes where its room goes, and what is told about it stays
the same.
-/

namespace Blueprint

variable {α : Type}

/-! ### Owners -/

/-- A room or part in its place, that an opening may be cut into. -/
inductive Host (α : Type) where
  | room (placed : PlacedRoom α)
  | part (placed : PlacedPart α)
  deriving DecidableEq, Repr

namespace Host

def text : Host α → String
  | room placed => placed.id
  | part placed => placed.key.text

def rect : Host α → Rect α
  | room placed => placed.rect
  | part placed => placed.rect

/-- The room that a host is, or is a part of. -/
def owner : Host α → String
  | room placed => placed.id
  | part placed => placed.key.room

end Host

variable [Scalar α]

namespace Placement

def qualified? (p : Placement α) (host : String) : Option (PlacedPart α) :=
  (Text.splitFirst? '.' host.toList).bind fun (room,part) =>
    p.part? ⟨String.ofList room,String.ofList part⟩

/-- The host that a name refers to. Hosts of one text may be different. -/
def hosting? (p : Placement α) (host : String) : Option (Host α) :=
  ((p.qualified? host).map .part).or
    (((p.room? host).map .room).or ((p.parts.find? (·.key.part == host)).map .part))

omit [Scalar α] in
theorem host?_eq_hosting? (p : Placement α) (host : String) :
    p.host? host = (p.hosting? host).map fun found => (found.text,found.rect) := by
  unfold host?
  dsimp only
  split
  · rename_i part hpart
    have hpart : p.qualified? host = some part := hpart
    rw [hosting?,hpart]
    rfl
  · rename_i hpart
    have hpart : p.qualified? host = none := hpart
    rw [hosting?,hpart]
    cases p.room? host with
    | some room => rfl
    | none => cases p.parts.find? (·.key.part == host) <;> rfl

/-- The room that an opening belongs to. -/
def owner? (p : Placement α) (o : Opening α) : Option String :=
  match WallReference.parse o.room with
  | .error _ => none
  | .ok reference => (p.hosting? reference.host).map Host.owner

end Placement

/-- The placed openings, each with the room that it belongs to. -/
def Plan.ownedOpenings (plan : Plan α) (config : LayoutConfig α) :
    List (String × PlacedOpening α) :=
  let placement := placePlan config plan.rooms
  plan.openings.filterMap fun o =>
    match placement.owner? o,placeOpening config placement o with
    | some owner,.ok placed => some (owner,placed)
    | _,_ => none

/-- The placed furnishings, each with the room that it belongs to. -/
def Plan.ownedFurnishings (plan : Plan α) (config : LayoutConfig α) :
    List (String × PlacedFurnishing α) :=
  (Plan.firstRooms plan.rooms).flatMap fun room =>
    ((placePlan config plan.rooms).furnishingsOf room).map (room.id,·)

/-! ### Things of a moved placement -/

def Host.moveBy (shift : String → Rat × Rat) : Host Rat → Host Rat
  | room placed => .room (placed.moveBy (shift placed.id))
  | part placed => .part (placed.moveBy (shift placed.key.room))

theorem placeFurnishings_moveBy (v : Rat × Rat) (name : String) (host : Rect Rat)
    (fs : List (Furnishing Rat)) : placeFurnishings name (host.moveBy v) fs =
      (placeFurnishings name host fs).map (·.moveBy v) := by
  refine List.ext_getElem (by simp [placeFurnishings]) fun i _ _ => ?_
  simp [placeFurnishings,Furnishing.rectIn_moveBy,PlacedFurnishing.moveBy]

namespace Placement

variable (shift : String → Rat × Rat) (p : Placement Rat)

theorem room?_moveBy (id : String) :
    (p.moveBy shift).room? id = (p.room? id).map fun room => room.moveBy (shift room.id) :=
  List.find?_map

theorem part?_moveBy (key : PartKey) : (p.moveBy shift).part? key =
    (p.part? key).map fun part => part.moveBy (shift part.key.room) := List.find?_map

theorem partsOf_moveBy (id : String) : partsOf (p.moveBy shift).parts id =
    (partsOf p.parts id).map (·.moveBy (shift id)) := by
  have hfilter : partsOf (p.moveBy shift).parts id =
      (partsOf p.parts id).map fun part => part.moveBy (shift part.key.room) := List.filter_map
  rw [hfilter]
  refine List.map_congr_left fun part hpart => ?_
  have hroom : part.key.room = id := by simpa using (List.mem_filter.mp hpart).2
  rw [hroom]

theorem compositeOf_moveBy (room : PlacedRoom Rat) :
    compositeOf (p.moveBy shift).parts (room.moveBy (shift room.id)) =
      (compositeOf p.parts room).moveBy (shift room.id) := by
  have hid : (room.moveBy (shift room.id)).id = room.id := rfl
  rw [compositeOf,compositeOf,← Composite.ofRects_moveBy,hid,partsOf_moveBy,List.map_map,
    List.map_cons,List.map_map]
  rfl

theorem hosting?_moveBy (host : String) :
    (p.moveBy shift).hosting? host = (p.hosting? host).map (Host.moveBy shift) := by
  have hqualified : (p.moveBy shift).qualified? host =
      (p.qualified? host).map fun part => part.moveBy (shift part.key.room) := by
    rw [qualified?,qualified?,Option.map_bind]
    simp only [part?_moveBy]
    rfl
  have hfind : (p.moveBy shift).parts.find? (·.key.part == host) =
      (p.parts.find? (·.key.part == host)).map fun part => part.moveBy (shift part.key.room) :=
    List.find?_map
  simp only [hosting?,hqualified,room?_moveBy,hfind,Option.map_or,Option.map_map]
  rfl

theorem furnishingsOf_moveBy (room : Room Rat) : (p.moveBy shift).furnishingsOf room =
    (p.furnishingsOf room).map (·.moveBy (shift room.id)) := by
  unfold furnishingsOf
  rw [room?_moveBy]
  cases hroom : p.room? room.id with
  | none => rfl
  | some placed =>
    have hid : placed.id = room.id := by simpa using List.find?_some hroom
    have hrect : (placed.moveBy (shift placed.id)).rect = placed.rect.moveBy (shift room.id) :=
      hid ▸ rfl
    simp only [Option.map_some,hrect,placeFurnishings_moveBy,List.map_append,List.map_flatMap]
    congr 1
    refine List.flatMap_congr fun part _ => ?_
    rw [part?_moveBy]
    cases hpart : p.part? ⟨room.id,part.id⟩ with
    | none => rfl
    | some placed =>
      have hkey : placed.key = ⟨room.id,part.id⟩ := by simpa using List.find?_some hpart
      have hrect : (placed.moveBy (shift placed.key.room)).rect =
          placed.rect.moveBy (shift room.id) := by
        rw [hkey]
        rfl
      simp only [Option.map_some,hrect,placeFurnishings_moveBy]

/-- An opening is placed if it has an owner, and moves with its owner. -/
theorem placeOpening_moveBy (config : LayoutConfig Rat) (o : Opening Rat) :
    (p.owner? o = none ∧ ∃ e, placeOpening config p o = .error e ∧
      placeOpening config (p.moveBy shift) o = .error e) ∨
    ∃ owner placed, p.owner? o = some owner ∧ placeOpening config p o = .ok placed ∧
      placeOpening config (p.moveBy shift) o = .ok (placed.moveBy (shift owner)) := by
  unfold owner? placeOpening
  cases WallReference.parse o.room with
  | error e => exact Or.inl ⟨rfl,_,rfl,rfl⟩
  | ok reference =>
    simp only [host?_eq_hosting?,hosting?_moveBy]
    cases p.hosting? reference.host with
    | none => exact Or.inl ⟨rfl,_,rfl,rfl⟩
    | some host =>
      refine Or.inr ⟨host.owner,_,rfl,rfl,?_⟩
      have hmoved : (host.moveBy shift).rect = host.rect.moveBy (shift host.owner) ∧
          (host.moveBy shift).text = host.text := by
        cases host <;> exact ⟨rfl,rfl⟩
      simp only [Option.map_some,hmoved.1,hmoved.2,placeOnWall_moveBy,drawOpening_moveBy,
        Rect.side_moveBy]
      rfl

end Placement

/-! ### Warnings -/

theorem eachPair_map {β γ δ : Type} (check : γ → γ → List δ) (f : β → γ) (l : List β) :
    eachPair check (l.map f) = eachPair (fun a b => check (f a) (f b)) l := by
  induction l with
  | nil => rfl
  | cons a l ih => rw [List.map_cons,eachPair,eachPair,List.flatMap_map,ih]

theorem lintMembers_moveBy (v : Rat × Rat) (a b : String × Rect Rat) :
    lintMembers (a.1,a.2.moveBy v) (b.1,b.2.moveBy v) = lintMembers a b := by
  simp only [lintMembers,Rect.intersects_moveBy,Rect.right_moveBy,Rect.bottom_moveBy,Rect.x_moveBy,
    Rect.y_moveBy,Scalar.least_rat,Scalar.greatest_rat,min_add_add_right,max_add_add_right,
    add_sub_add_right_eq_sub]

theorem members_moveBy (layout' layout : Layout Rat) (shift : String → Rat × Rat)
    (hparts : layout'.parts = layout.parts.map fun part => part.moveBy (shift part.key.room))
    (room : String) (v : Rat × Rat) (shape : Composite Rat) :
    layout'.members room (shape.moveBy v) =
      (layout.members room shape).map fun m => (m.1,m.2.moveBy v) := by
  have hnames : (partsOf layout'.parts room).map (·.key.text) =
      (partsOf layout.parts room).map (·.key.text) := by
    rw [hparts,partsOf,partsOf,List.filter_map,List.map_map]
    rfl
  unfold Layout.members
  rw [hnames]
  refine List.ext_getElem (by simp [Composite.moveBy]) fun i _ _ => ?_
  simp [Composite.moveBy]

/-! ### The layout -/

section

variable (v : Rat × Rat) (plan : Plan Rat) (r : String) (config : LayoutConfig Rat)

theorem rooms_moveRoom : ((plan.moveRoom v r).layout config).rooms =
    (plan.layout config).rooms.map fun room => room.moveBy (plan.shift v r room.id) :=
  congrArg Placement.rooms (placePlan_moveRoom v plan r config)

theorem parts_moveRoom : ((plan.moveRoom v r).layout config).parts =
    (plan.layout config).parts.map fun part => part.moveBy (plan.shift v r part.key.room) :=
  congrArg Placement.parts (placePlan_moveRoom v plan r config)

theorem composites_moveRoom : ((plan.moveRoom v r).layout config).composites =
    (plan.layout config).composites.map fun shape =>
      (shape.1,shape.2.moveBy (plan.shift v r shape.1)) := by
  simp only [Plan.layout,Plan.moveRoom,placePlan_moveRoom,Placement.rooms_moveBy,List.map_map]
  refine List.map_congr_left fun room _ => ?_
  exact congrArg (Prod.mk room.id) (Placement.compositeOf_moveBy _ _ room)

/-- The layout holds the placed openings of any owner. -/
theorem openings_layout :
    (plan.layout config).openings = (plan.ownedOpenings config).map (·.2) := by
  simp only [Plan.layout,Plan.ownedOpenings,List.filterMap_map,List.map_filterMap]
  refine List.filterMap_congr fun o _ => ?_
  rcases (placePlan config plan.rooms).placeOpening_moveBy (fun _ => (0,0)) config o with
    ⟨howner,e,he,_⟩ | ⟨owner,placed,howner,hplaced,_⟩
  · simp [howner,he]
  · simp [howner,hplaced]

theorem openings_moveRoom : ((plan.moveRoom v r).layout config).openings =
    (plan.ownedOpenings config).map fun o => o.2.moveBy (plan.shift v r o.1) := by
  have hsame : (plan.moveRoom v r).openings = plan.openings := rfl
  simp only [Plan.layout,hsame,Plan.ownedOpenings,List.filterMap_map,List.map_filterMap]
  refine List.filterMap_congr fun o _ => ?_
  rw [Plan.moveRoom,placePlan_moveRoom]
  rcases (placePlan config plan.rooms).placeOpening_moveBy (plan.shift v r) config o with
    ⟨howner,e,he,hmoved⟩ | ⟨owner,placed,howner,hplaced,hmoved⟩
  · simp [howner,hmoved]
  · simp [howner,hplaced,hmoved]

theorem furnishings_layout :
    (plan.layout config).furnishings = (plan.ownedFurnishings config).map (·.2) := by
  simp [Plan.layout,Plan.ownedFurnishings,List.map_flatMap,Function.comp_def]

theorem furnishings_moveRoom : ((plan.moveRoom v r).layout config).furnishings =
    (plan.ownedFurnishings config).map fun f => f.2.moveBy (plan.shift v r f.1) := by
  have hfurnishings (p : Placement Rat) (room : Room Rat) :
      p.furnishingsOf (room.movedIf v r) = p.furnishingsOf room := by
    unfold Room.movedIf
    split <;> rfl
  simp only [Plan.layout,Plan.moveRoom,placePlan_moveRoom,Plan.ownedFurnishings,Plan.firstRooms,
    firstBy_moveFirst v List.not_mem_nil,List.flatMap_map,List.map_flatMap,hfurnishings,
    Placement.furnishingsOf_moveBy,List.map_map]
  rfl

theorem failures_moveRoom : ((plan.moveRoom v r).layout config).failures =
    (plan.layout config).failures := by
  have hsame : (plan.moveRoom v r).openings = plan.openings := rfl
  simp only [Plan.layout,hsame,List.filterMap_map]
  rw [Plan.moveRoom,placePlan_moveRoom]
  refine congrArg (_ ++ ·) (List.filterMap_congr fun o _ => ?_)
  rcases (placePlan config plan.rooms).placeOpening_moveBy (plan.shift v r) config o with
    ⟨_,e,he,hmoved⟩ | ⟨owner,placed,_,hplaced,hmoved⟩
  · simp [he,hmoved]
  · simp [hplaced,hmoved]

theorem lint_moveRoom : ((plan.moveRoom v r).layout config).lint = (plan.layout config).lint := by
  have hmembers (shape : String × Composite Rat) :
      eachPair lintMembers (((plan.moveRoom v r).layout config).members shape.1
        (shape.2.moveBy (plan.shift v r shape.1))) =
      eachPair lintMembers ((plan.layout config).members shape.1 shape.2) := by
    rw [members_moveBy _ _ _ (parts_moveRoom v plan r config),eachPair_map]
    simp only [lintMembers_moveBy]
  unfold Layout.lint
  rw [openings_moveRoom,openings_layout,composites_moveRoom]
  simp only [List.flatMap_map,eachPair_map,hmembers]
  rfl

end

open Classical in
/-- What is moved as far as its owner is moved whole or not at all. -/
theorem map_shift {β γ : Type} (v : Rat × Rat) (plan : Plan Rat) (r : String) (l : List β)
    (owner : β → String) (move : Rat × Rat → β → γ) {still : β → γ}
    (hstill : ∀ b, move (0,0) b = still b) :
    l.map (fun b => move (plan.shift v r (owner b)) b) =
      l.map fun b => if plan.Hangs (owner b) r then move v b else still b := by
  refine List.map_congr_left fun b _ => ?_
  unfold Plan.shift
  split
  · rfl
  · exact hstill b

open Classical in
/-- Some rooms move by one vector, each with all that belongs to it, and nothing else changes. -/
structure Plan.RoomsMoved (plan' plan : Plan Rat) (config : LayoutConfig Rat)
    (moves : String → Prop) (v : Rat × Rat) : Prop where
  rooms : (plan'.layout config).rooms = (plan.layout config).rooms.map fun room =>
    if moves room.id then room.moveBy v else room
  parts : (plan'.layout config).parts = (plan.layout config).parts.map fun part =>
    if moves part.key.room then part.moveBy v else part
  composites : (plan'.layout config).composites = (plan.layout config).composites.map fun shape =>
    if moves shape.1 then (shape.1,shape.2.moveBy v) else shape
  owned_openings : (plan.layout config).openings = (plan.ownedOpenings config).map (·.2)
  openings : (plan'.layout config).openings = (plan.ownedOpenings config).map fun o =>
    if moves o.1 then o.2.moveBy v else o.2
  owned_furnishings : (plan.layout config).furnishings = (plan.ownedFurnishings config).map (·.2)
  furnishings : (plan'.layout config).furnishings = (plan.ownedFurnishings config).map fun f =>
    if moves f.1 then f.2.moveBy v else f.2
  failures : (plan'.layout config).failures = (plan.layout config).failures
  lint : (plan'.layout config).lint = (plan.layout config).lint

/-- A room that is moved takes along the rooms that hang on it, and nothing else. -/
theorem roomsMoved_moveRoom (v : Rat × Rat) (plan : Plan Rat) (r : String)
    (config : LayoutConfig Rat) :
    (plan.moveRoom v r).RoomsMoved plan config (plan.Hangs · r) v where
  rooms := (rooms_moveRoom v plan r config).trans
    (map_shift v plan r _ (·.id) PlacedRoom.moveBy PlacedRoom.moveBy_zero)
  parts := (parts_moveRoom v plan r config).trans
    (map_shift v plan r _ (·.key.room) PlacedPart.moveBy PlacedPart.moveBy_zero)
  composites := (composites_moveRoom v plan r config).trans
    (map_shift v plan r (plan.layout config).composites (·.1)
      (fun w shape => (shape.1,shape.2.moveBy w)) fun shape =>
        congrArg (Prod.mk shape.1) shape.2.moveBy_zero)
  owned_openings := openings_layout plan config
  openings := (openings_moveRoom v plan r config).trans
    (map_shift v plan r (plan.ownedOpenings config) (·.1) (fun w o => o.2.moveBy w) fun o =>
      o.2.moveBy_zero)
  owned_furnishings := furnishings_layout plan config
  furnishings := (furnishings_moveRoom v plan r config).trans
    (map_shift v plan r (plan.ownedFurnishings config) (·.1) (fun w f => f.2.moveBy w) fun f =>
      f.2.moveBy_zero)
  failures := failures_moveRoom v plan r config
  lint := lint_moveRoom v plan r config

end Blueprint
