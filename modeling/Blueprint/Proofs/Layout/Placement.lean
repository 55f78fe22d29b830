import Blueprint.Layout.Compute
import Blueprint.Proofs.Pinning.Solution

/-!
The placement of a plan as pinnings: one of all rooms, and one of the parts of every room that has
its place.
-/

namespace Blueprint

/-! ### First items by key -/

section First

variable {β : Type} {key : β → String}

/-- An item is kept if it is the first of its key. -/
theorem mem_firstBy_iff {seen : List String} {l : List β} {b : β} :
    b ∈ firstBy key seen l ↔ key b ∉ seen ∧ l.find? (key · == key b) = some b := by
  induction l generalizing seen with
  | nil => simp [firstBy]
  | cons c l ih =>
    rw [firstBy,List.find?_cons]
    by_cases hkey : key c = key b
    · by_cases hc : key c ∈ seen
      · simp [hc,ih,hkey ▸ hc]
      · have hb : key b ∉ seen := hkey ▸ hc
        simp [ih,hkey,hb,eq_comm]
    · have hne : b ≠ c := fun he => hkey (he ▸ rfl)
      have hbeq : (key c == key b) = false := by simpa using hkey
      by_cases hc : key c ∈ seen
      · simp [hc,ih,hbeq]
      · simp [hc,ih,hbeq,hne,Ne.symm hkey]

theorem mem_firstBy_nil_iff {l : List β} {b : β} :
    b ∈ firstBy key [] l ↔ l.find? (key · == key b) = some b := by
  simp [mem_firstBy_iff]

theorem not_mem_map_firstBy {seen : List String} {l : List β} {k : String} (hk : k ∈ seen) :
    k ∉ (firstBy key seen l).map key := by
  intro hmem
  obtain ⟨b,hb,rfl⟩ := List.mem_map.mp hmem
  exact (mem_firstBy_iff.mp hb).1 hk

theorem nodup_map_firstBy {seen : List String} {l : List β} :
    ((firstBy key seen l).map key).Nodup := by
  induction l generalizing seen with
  | nil => simp [firstBy]
  | cons c l ih =>
    rw [firstBy]
    split
    · exact ih
    · exact List.nodup_cons.mpr ⟨not_mem_map_firstBy List.mem_cons_self,ih⟩

/-- Where keys are distinct, nothing is dropped. -/
theorem firstBy_of_nodup {seen : List String} {l : List β} (hd : (l.map key).Nodup)
    (hseen : ∀ b ∈ l, key b ∉ seen) : firstBy key seen l = l := by
  induction l generalizing seen with
  | nil => rfl
  | cons b l ih =>
    rw [List.map_cons,List.nodup_cons] at hd
    have hb : key b ∉ seen := hseen b List.mem_cons_self
    rw [firstBy,if_neg (by simpa using hb),ih hd.2 fun c hc => ?_]
    rw [List.mem_cons,not_or]
    exact ⟨fun he => hd.1 (he ▸ List.mem_map_of_mem hc),hseen c (List.mem_cons_of_mem b hc)⟩

theorem firstBy_map {γ : Type} (f : γ → β) (seen : List String) (l : List γ) :
    firstBy key seen (l.map f) = (firstBy (fun c => key (f c)) seen l).map f := by
  induction l generalizing seen with
  | nil => rfl
  | cons c l ih =>
    rw [List.map_cons,firstBy,firstBy]
    split
    · exact ih _
    · rw [ih,List.map_cons]

/-- An item at the end is kept unless its key is met before. -/
theorem firstBy_concat (seen : List String) (l : List β) (b : β) : firstBy key seen (l ++ [b]) =
    firstBy key seen l ++ if key b ∈ seen ∨ key b ∈ l.map key then [] else [b] := by
  induction l generalizing seen with
  | nil =>
    by_cases hb : key b ∈ seen <;> simp [firstBy,hb]
  | cons c l ih =>
    rw [List.cons_append,firstBy,firstBy]
    split
    · rename_i hc
      have hc : key c ∈ seen := by simpa using hc
      have hsame : (key b ∈ seen ∨ key b ∈ (c :: l).map key) ↔
          (key b ∈ seen ∨ key b ∈ l.map key) := by
        rw [List.map_cons,List.mem_cons]
        constructor
        · rintro (hb | he | hb)
          exacts [Or.inl hb,Or.inl (he ▸ hc),Or.inr hb]
        · exact Or.imp_right Or.inr
      rw [ih]
      simp only [hsame]
    · have hsame : (key b ∈ key c :: seen ∨ key b ∈ l.map key) ↔
          (key b ∈ seen ∨ key b ∈ (c :: l).map key) := by
        rw [List.map_cons,List.mem_cons,List.mem_cons,or_assoc,or_left_comm]
      rw [ih,List.cons_append]
      simp only [hsame]

/-- The table of a list of blocks holds the first block of every id. -/
theorem Pinning.firstDeclared_eq_firstBy {α : Type} (blocks : List (Block α)) :
    firstDeclared blocks = firstBy (·.id) [] blocks := by
  induction blocks using List.reverseRecOn with
  | nil => rfl
  | append_singleton blocks b ih =>
    have hmet : b.id ∈ [] ∨ b.id ∈ blocks.map (·.id) ↔ b.id ∈ ids blocks := by simp [ids]
    rw [firstDeclared_concat,firstBy_concat,ih]
    simp only [hmet]
    split <;> simp

end First

variable {α : Type}

theorem firstDeclared_rooms (rooms : List (Room α)) :
    Pinning.firstDeclared (rooms.map Room.toBlock) = (Plan.firstRooms rooms).map Room.toBlock := by
  rw [Pinning.firstDeclared_eq_firstBy,firstBy_map,Plan.firstRooms]

/-- The first declaration of a room. -/
def Plan.room? (plan : Plan α) (id : String) : Option (Room α) := plan.rooms.find? (·.id == id)

/-- The first declaration of a part, in the first declaration of its room. -/
def Plan.part? (plan : Plan α) (key : PartKey) : Option (Part α) :=
  (plan.room? key.room).bind fun room => room.parts.find? (·.id == key.part)

theorem Plan.id_of_room? {plan : Plan α} {id : String} {room : Room α}
    (h : plan.room? id = some room) : room.id = id := by
  simpa using List.find?_some h

theorem Plan.id_of_part? {plan : Plan α} {key : PartKey} {part : Part α}
    (h : plan.part? key = some part) : part.id = key.part := by
  obtain ⟨room,_,hpart⟩ := Option.bind_eq_some_iff.mp h
  simpa using List.find?_some hpart

theorem Plan.mem_firstRooms_iff {plan : Plan α} {room : Room α} :
    room ∈ Plan.firstRooms plan.rooms ↔ plan.room? room.id = some room := mem_firstBy_nil_iff

theorem declared?_rooms (plan : Plan α) (id : String) :
    Pinning.declared? (plan.rooms.map Room.toBlock) id = (plan.room? id).map Room.toBlock := by
  rw [Pinning.declared?,List.find?_map]
  rfl

theorem declared?_parts {plan : Plan α} {name : String} {room : Room α}
    (h : plan.room? name = some room) (id : String) :
    Pinning.declared? (room.parts.map Part.toBlock) id =
      (plan.part? ⟨name,id⟩).map Part.toBlock := by
  rw [Pinning.declared?,List.find?_map,Plan.part?,h]
  rfl

/-! ### The rectangles of a placement -/

theorem foldl_append (ps : List (Placement α)) (p : Placement α) :
    ps.foldl Placement.append p =
      ⟨p.rooms ++ ps.flatMap (·.rooms),p.parts ++ ps.flatMap (·.parts),
        p.failures ++ ps.flatMap (·.failures)⟩ := by
  induction ps generalizing p with
  | nil => simp
  | cons q ps ih => simp [ih,Placement.append]

/-- The rectangles of the placed rooms, by id. -/
def Placement.roomRects (p : Placement α) : List (String × Rect α) :=
  p.rooms.map fun room => (room.id,room.rect)

/-- The rectangles of the placed parts, by key. -/
def Placement.partRects (p : Placement α) : List (PartKey × Rect α) :=
  p.parts.map fun part => (part.key,part.rect)

variable [Scalar α]

theorem pin_nil (ns : Namespace α) (maxPasses : Nat) (qualify : String → String) :
    pin ns maxPasses qualify [] = ⟨[],[],0⟩ := by
  cases maxPasses <;> rfl

/-- A room is placed with the pinning of its parts, also if it has none. -/
theorem placeRoom_eq (maxPasses : Nat) (room : Room α) (rect : Rect α) :
    placeRoom maxPasses room rect =
      { rooms := [⟨room.id,room.name,rect⟩]
        parts := (room.pinParts rect maxPasses).rects.map fun (id,r) =>
          ⟨⟨room.id,id⟩,room.partName? id,r⟩
        failures := (room.pinParts rect maxPasses).failures } := by
  unfold placeRoom
  split
  · rename_i hempty
    have hparts : room.parts = [] := List.isEmpty_iff.mp hempty
    simp [Room.pinParts,hparts,pin_nil]
  · rfl

/-- The rooms that have their place, each with its parts. -/
def placements (maxPasses : Nat) (rooms : List (Room α)) : List (Placement α) :=
  (Plan.firstRooms rooms).flatMap fun room =>
    ((pin .rooms maxPasses id (rooms.map Room.toBlock)).rects.lookup room.id).toList.map
      (placeRoom maxPasses room)

/-- The placement of some rooms is put together from those of each, behind the failures of the
rooms. -/
theorem placeRooms_eq (maxPasses : Nat) (rooms : List (Room α)) : placeRooms maxPasses rooms =
    { rooms := (placements maxPasses rooms).flatMap (·.rooms)
      parts := (placements maxPasses rooms).flatMap (·.parts)
      failures := (pin .rooms maxPasses id (rooms.map Room.toBlock)).failures ++
        (placements maxPasses rooms).flatMap (·.failures) } := by
  have hplaced (f : Room α → Option (Placement α)) (l : List (Room α)) :
      l.filterMap f = l.flatMap fun room => (f room).toList := List.filterMap_eq_flatMap_toList f l
  rw [placeRooms,foldl_append,hplaced]
  simp only [placements,Option.toList_map,List.nil_append]

/-- What is read off the placements is read off every first room in its place. -/
theorem flatMap_placements {β : Type} (read : Placement α → List β) (maxPasses : Nat)
    (rooms : List (Room α)) : (placements maxPasses rooms).flatMap read =
      (Plan.firstRooms rooms).flatMap fun room =>
        ((pin .rooms maxPasses id (rooms.map Room.toBlock)).rects.lookup room.id).toList.flatMap
          fun rect => read (placeRoom maxPasses room rect) := by
  simp only [placements,List.flatMap_assoc,List.flatMap_map]

variable (maxPasses : Nat) (plan : Plan α)

/-- The pinning of the rooms of a plan. -/
def Plan.pinRooms : Pinning α := pin .rooms maxPasses id (plan.rooms.map Room.toBlock)

theorem roomRects_placeRooms : (placeRooms maxPasses plan.rooms).roomRects =
    (Plan.firstRooms plan.rooms).flatMap fun room =>
      ((plan.pinRooms maxPasses).rects.lookup room.id).toList.map (room.id,·) := by
  rw [Placement.roomRects,placeRooms_eq,List.map_flatMap,flatMap_placements]
  simp only [placeRoom_eq]
  exact List.flatMap_congr fun _ _ => List.map_eq_flatMap.symm

theorem partRects_placeRooms : (placeRooms maxPasses plan.rooms).partRects =
    (Plan.firstRooms plan.rooms).flatMap fun room =>
      ((plan.pinRooms maxPasses).rects.lookup room.id).toList.flatMap fun parent =>
        (room.pinParts parent maxPasses).rects.map fun p => (⟨room.id,p.1⟩,p.2) := by
  rw [Placement.partRects,placeRooms_eq,List.map_flatMap,flatMap_placements]
  simp only [placeRoom_eq,List.map_map]
  rfl

variable {maxPasses plan}

theorem Plan.lookup_pinRooms_iff {name : String} {rect : Rect α} :
    (plan.pinRooms maxPasses).rects.lookup name = some rect ↔
      (name,rect) ∈ (plan.pinRooms maxPasses).rects := Pinning.mem_pin_iff

/-- The rectangles of the placed rooms are those of their pinning. -/
theorem mem_roomRects_placeRooms {name : String} {rect : Rect α} :
    (name,rect) ∈ (placeRooms maxPasses plan.rooms).roomRects ↔
      (name,rect) ∈ (plan.pinRooms maxPasses).rects := by
  rw [roomRects_placeRooms,← Plan.lookup_pinRooms_iff]
  simp only [List.mem_flatMap,List.mem_map,Option.mem_toList,Prod.mk.injEq]
  constructor
  · rintro ⟨room,_,rect,h,rfl,rfl⟩
    exact h
  · intro h
    obtain ⟨b,hb,_⟩ := Pinning.solves_pin _ _ (Plan.lookup_pinRooms_iff.mp h)
    obtain ⟨room,hroom,rfl⟩ := Option.map_eq_some_iff.mp (declared?_rooms plan name ▸ hb)
    obtain rfl := Plan.id_of_room? hroom
    exact ⟨room,Plan.mem_firstRooms_iff.mpr hroom,rect,h,rfl,rfl⟩

/-- The rectangles of the placed parts are those of the pinnings in the placed rooms. -/
theorem mem_partRects_placeRooms {key : PartKey} {rect : Rect α} :
    (key,rect) ∈ (placeRooms maxPasses plan.rooms).partRects ↔
      ∃ room parent, plan.room? key.room = some room ∧
        (key.room,parent) ∈ (placeRooms maxPasses plan.rooms).roomRects ∧
          (key.part,rect) ∈ (room.pinParts parent maxPasses).rects := by
  simp only [mem_roomRects_placeRooms]
  rw [partRects_placeRooms]
  simp only [List.mem_flatMap,List.mem_map,Option.mem_toList,Prod.mk.injEq]
  constructor
  · rintro ⟨room,hroom,parent,hparent,⟨part,r⟩,hpart,rfl,rfl⟩
    exact ⟨room,parent,Plan.mem_firstRooms_iff.mp hroom,Plan.lookup_pinRooms_iff.mp hparent,hpart⟩
  · rintro ⟨room,parent,hroom,hparent,hpart⟩
    have hid := Plan.id_of_room? hroom
    refine ⟨room,Plan.mem_firstRooms_iff.mpr (hid ▸ hroom),parent,?_,_,hpart,?_,rfl⟩
    · exact hid ▸ Plan.lookup_pinRooms_iff.mpr hparent
    · rw [hid]

omit [Scalar α] in
/-- Lists that belong to different first rooms have nothing in common. -/
theorem nodup_flatMap_firstRooms {κ : Type} (owner : κ → String) {g : Room α → List κ}
    (hg : ∀ room, (g room).Nodup) (howner : ∀ room, ∀ k ∈ g room, owner k = room.id) :
    ((Plan.firstRooms plan.rooms).flatMap g).Nodup := by
  rw [List.nodup_flatMap]
  refine ⟨fun room _ => hg room,?_⟩
  have hd : ((Plan.firstRooms plan.rooms).map (·.id)).Nodup := nodup_map_firstBy
  refine (List.pairwise_map.mp hd).imp ?_
  intro room room' hne k hk hk'
  exact hne ((howner room k hk).symm.trans (howner room' k hk'))

theorem nodup_roomRects_placeRooms :
    ((placeRooms maxPasses plan.rooms).roomRects.map (·.1)).Nodup := by
  rw [roomRects_placeRooms,List.map_flatMap]
  refine nodup_flatMap_firstRooms id (fun room => ?_) fun room k hk => ?_
  · cases (plan.pinRooms maxPasses).rects.lookup room.id <;> simp
  · cases h : (plan.pinRooms maxPasses).rects.lookup room.id with
    | none => simp [h] at hk
    | some rect => simpa [h] using hk

theorem nodup_partRects_placeRooms :
    ((placeRooms maxPasses plan.rooms).partRects.map (·.1)).Nodup := by
  rw [partRects_placeRooms,List.map_flatMap]
  refine nodup_flatMap_firstRooms PartKey.room (fun room => ?_) fun room k hk => ?_
  · cases (plan.pinRooms maxPasses).rects.lookup room.id with
    | none => simp
    | some parent =>
      have hd := Pinning.nodup_keys_pin (.parts parent) maxPasses
        (fun id => (PartKey.mk room.id id).text) (room.parts.map Part.toBlock)
      have hinj : Function.Injective (PartKey.mk room.id) := by
        intro s t h
        exact (PartKey.mk.inj h).2
      simpa [Room.pinParts,Function.comp_def] using hd.map hinj
  · cases h : (plan.pinRooms maxPasses).rects.lookup room.id with
    | none => simp [h] at hk
    | some rect =>
      simp only [h,Option.toList_some,List.flatMap_singleton,List.map_map,List.mem_map] at hk
      obtain ⟨p,_,rfl⟩ := hk
      rfl

/-- A plan is placed by its pinnings, unless the origin is required and nothing is attached to
it. -/
theorem placePlan_rects (config : LayoutConfig α) (rooms : List (Room α)) :
    ((placePlan config rooms).roomRects = [] ∧ (placePlan config rooms).partRects = []) ∨
      ((placePlan config rooms).roomRects = (placeRooms config.maxPasses rooms).roomRects ∧
        (placePlan config rooms).partRects = (placeRooms config.maxPasses rooms).partRects) := by
  unfold placePlan
  simp only
  split
  · exact Or.inl ⟨rfl,rfl⟩
  · exact Or.inr ⟨rfl,rfl⟩

/-- An opening that is not placed is told by its number and its reference. -/
theorem wallReference_of_placeOpening {config : LayoutConfig α} {p : Placement α} {o : Opening α}
    {f : Failure} (h : placeOpening config p o = .error f) :
    ∃ reason, f = .wallReference (o.kind.ordinal o.index) o.room reason := by
  unfold placeOpening at h
  split at h
  · exact ⟨_,(Except.error.inj h).symm⟩
  · split at h
    · exact ⟨_,(Except.error.inj h).symm⟩
    · cases h

end Blueprint
