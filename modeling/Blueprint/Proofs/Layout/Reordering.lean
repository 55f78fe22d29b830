import Blueprint.Proofs.Layout.Placement
import Blueprint.Proofs.Pinning.Reordering

/-!
The order of rooms and parts. With passes enough for every list, rooms with distinct ids and
distinct parts are given the same rectangles in whatever order they are declared, and fail for the
same causes.
-/

namespace Blueprint

variable {α : Type}

/-- The same room, with its parts declared in another order. -/
def Room.Shuffled (room' room : Room α) : Prop :=
  ∃ parts : List (Part α), parts.Perm room.parts ∧ room' = { room with parts := parts }

/-- The same rooms in another order, each with its parts in another order. -/
def Reordered (rooms' rooms : List (Room α)) : Prop :=
  ∃ between : List (Room α), rooms'.Perm between ∧ List.Forall₂ Room.Shuffled between rooms

theorem Room.Shuffled.toBlock_eq {room' room : Room α} (h : room'.Shuffled room) :
    room'.toBlock = room.toBlock := by
  obtain ⟨_,_,rfl⟩ := h
  rfl

theorem map_toBlock_of_shuffled {between rooms : List (Room α)}
    (h : List.Forall₂ Room.Shuffled between rooms) :
    between.map Room.toBlock = rooms.map Room.toBlock := by
  induction h with
  | nil => rfl
  | cons hroom _ ih => rw [List.map_cons,List.map_cons,hroom.toBlock_eq,ih]

theorem Reordered.perm_blocks {rooms' rooms : List (Room α)} (h : Reordered rooms' rooms) :
    (rooms'.map Room.toBlock).Perm (rooms.map Room.toBlock) := by
  obtain ⟨between,hperm,hshuffled⟩ := h
  rw [← map_toBlock_of_shuffled hshuffled]
  exact hperm.map _

theorem ids_rooms (rooms : List (Room α)) :
    Pinning.ids (rooms.map Room.toBlock) = rooms.map (·.id) := by
  simp [Pinning.ids]

theorem ids_parts (parts : List (Part α)) :
    Pinning.ids (parts.map Part.toBlock) = parts.map (·.id) := by
  simp [Pinning.ids]

theorem perm_flatMap_of_forall₂ {β γ δ : Type} {R : β → γ → Prop} {f : β → List δ} {g : γ → List δ}
    {l : List β} {m : List γ} (h : List.Forall₂ R l m)
    (hfg : ∀ b c, c ∈ m → R b c → (f b).Perm (g c)) : (l.flatMap f).Perm (m.flatMap g) := by
  induction h with
  | nil => simp
  | cons hbc _ ih =>
    rw [List.flatMap_cons,List.flatMap_cons]
    exact (hfg _ _ List.mem_cons_self hbc).append
      (ih fun b c hc => hfg b c (List.mem_cons_of_mem _ hc))

variable [Scalar α] {maxPasses : Nat}

/-- A room in its place is given the same parts, and tells the same failures, in whatever order the
parts are declared. -/
theorem placeRoom_of_shuffled {room' room : Room α} (h : room'.Shuffled room)
    (hd : (room.parts.map (·.id)).Nodup) (hmost : room.parts.length ≤ maxPasses) (rect : Rect α) :
    (placeRoom maxPasses room' rect).rooms = (placeRoom maxPasses room rect).rooms ∧
    (placeRoom maxPasses room' rect).parts.Perm (placeRoom maxPasses room rect).parts ∧
    ((placeRoom maxPasses room' rect).failures.map Failure.unrooted).Perm
      ((placeRoom maxPasses room rect).failures.map Failure.unrooted) := by
  obtain ⟨parts,hperm,rfl⟩ := h
  have hblocks := hperm.map Part.toBlock
  rw [← ids_parts] at hd
  have hlen : (room.parts.map Part.toBlock).length ≤ maxPasses := by simpa using hmost
  have hname : Room.partName? { room with parts := parts } = room.partName? := by
    funext id
    rw [ids_parts] at hd
    rw [Room.partName?,Room.partName?,find?_key_of_perm hperm hd]
  rw [placeRoom_eq,placeRoom_eq,hname]
  exact ⟨rfl,(Pinning.perm_rects_pin hblocks hd hlen).map _,
    Pinning.perm_failures_pin hblocks hd hlen⟩

variable {rooms' rooms : List (Room α)}

/-- Whatever is read off the rooms in their places comes in another order only, if it does so for
each room. -/
theorem perm_flatMap_placements {β : Type} {part : Placement α → List β}
    (h : Reordered rooms' rooms) (hd : (rooms.map (·.id)).Nodup) (hmost : rooms.length ≤ maxPasses)
    (hpart : ∀ room' room, room ∈ rooms → Room.Shuffled room' room → ∀ rect,
      (part (placeRoom maxPasses room' rect)).Perm (part (placeRoom maxPasses room rect))) :
    ((placements maxPasses rooms').flatMap part).Perm
      ((placements maxPasses rooms).flatMap part) := by
  have hblocks := h.perm_blocks
  have hids : (Pinning.ids (rooms.map Room.toBlock)).Nodup := by rwa [ids_rooms]
  have hlen : (rooms.map Room.toBlock).length ≤ maxPasses := by simpa using hmost
  have hd' : (rooms'.map (·.id)).Nodup := by
    rw [← ids_rooms]
    exact (hblocks.map _).nodup_iff.mpr hids
  have hfirst : Plan.firstRooms rooms = rooms := firstBy_of_nodup hd (by simp)
  have hfirst' : Plan.firstRooms rooms' = rooms' := firstBy_of_nodup hd' (by simp)
  rw [flatMap_placements,flatMap_placements,hfirst,hfirst']
  simp only [Pinning.lookup_pin_of_perm hblocks hids hlen]
  obtain ⟨between,hperm,hshuffled⟩ := h
  refine (hperm.flatMap_right _).trans (perm_flatMap_of_forall₂ hshuffled ?_)
  intro room' room hroom hsame
  have hid : room'.id = room.id := congrArg Block.id hsame.toBlock_eq
  rw [hid]
  exact .flatMap_left _ fun rect _ => hpart room' room hroom hsame rect

/-! ### The placement of a plan -/

/-- Two placements tell the same in another order, cycles in any turn. -/
structure Placement.SameUpToOrder (p' p : Placement α) : Prop where
  rooms : p'.rooms.Perm p.rooms
  parts : p'.parts.Perm p.parts
  failures : (p'.failures.map Failure.unrooted).Perm (p.failures.map Failure.unrooted)

theorem placeRooms_of_reordered (h : Reordered rooms' rooms) (hd : (rooms.map (·.id)).Nodup)
    (hparts : ∀ room ∈ rooms, (room.parts.map (·.id)).Nodup) (hrooms : rooms.length ≤ maxPasses)
    (hmost : ∀ room ∈ rooms, room.parts.length ≤ maxPasses) :
    (placeRooms maxPasses rooms').SameUpToOrder (placeRooms maxPasses rooms) := by
  have hroom {room' room : Room α} (hmem : room ∈ rooms) (hsame : room'.Shuffled room)
      (rect : Rect α) := placeRoom_of_shuffled hsame (hparts room hmem) (hmost room hmem) rect
  have hids : (Pinning.ids (rooms.map Room.toBlock)).Nodup := by rwa [ids_rooms]
  have hlen : (rooms.map Room.toBlock).length ≤ maxPasses := by simpa using hrooms
  rw [placeRooms_eq,placeRooms_eq]
  refine ⟨?_,?_,?_⟩
  · exact perm_flatMap_placements h hd hrooms fun _ _ hmem hsame rect =>
      .of_eq (hroom hmem hsame rect).1
  · exact perm_flatMap_placements h hd hrooms fun _ _ hmem hsame rect => (hroom hmem hsame rect).2.1
  · simp only [List.map_append,List.map_flatMap]
    refine (Pinning.perm_failures_pin h.perm_blocks hids hlen).append ?_
    exact perm_flatMap_placements h hd hrooms fun _ _ hmem hsame rect => (hroom hmem hsame rect).2.2

omit [Scalar α] in
/-- A list that is not told to have run out of passes is not told so in another order. -/
theorem Placement.SameUpToOrder.isOutOfPasses_eq_false {p' p : Placement α}
    (h : p'.SameUpToOrder p) (hp : ∀ f ∈ p.failures, f.isOutOfPasses = false) {f : Failure}
    (hf : f ∈ p'.failures) : f.isOutOfPasses = false := by
  cases f with
  | outOfPasses passes remaining =>
    have hmem := h.failures.mem_iff.mp (List.mem_map_of_mem hf)
    obtain ⟨g,hg,he⟩ := List.mem_map.mp hmem
    exact Failure.eq_of_unrooted_eq_inl he ▸ hp g hg
  | _ => rfl

omit [Scalar α] in
theorem originFailures_of_perm (policy : OriginPolicy)
    (h : (rooms'.map Room.toBlock).Perm (rooms.map Room.toBlock)) :
    originFailures policy rooms' = originFailures policy rooms := by
  have hempty : rooms'.isEmpty = rooms.isEmpty := by
    have hlen : rooms'.length = rooms.length := by simpa using h.length_eq
    rw [Bool.eq_iff_iff,List.isEmpty_iff_length_eq_zero,List.isEmpty_iff_length_eq_zero,hlen]
  have hany (rs : List (Room α)) : rs.any attachesToOrigin =
      (rs.map Room.toBlock).any (·.attachTo.target == originName) := by
    rw [List.any_map]
    rfl
  unfold originFailures
  rw [hempty,hany,hany,h.any_eq]

/-- With passes enough, no room and no part is left for a later pass. -/
theorem isOutOfPasses_of_mem_placeRooms (hd : (rooms.map (·.id)).Nodup)
    (hparts : ∀ room ∈ rooms, (room.parts.map (·.id)).Nodup) (hrooms : rooms.length ≤ maxPasses)
    (hmost : ∀ room ∈ rooms, room.parts.length ≤ maxPasses) {f : Failure}
    (hf : f ∈ (placeRooms maxPasses rooms).failures) : f.isOutOfPasses = false := by
  have hcauses {ns : Namespace α} {qualify : String → String} {blocks : List (Block α)}
      (hd : (Pinning.ids blocks).Nodup) (hmost : blocks.length ≤ maxPasses)
      (hf : f ∈ (pin ns maxPasses qualify blocks).failures) : f.isOutOfPasses = false := by
    rw [Pinning.failures_pin_eq_causes hd hmost] at hf
    exact Pinning.isOutOfPasses_of_mem_causes hf
  rw [placeRooms_eq] at hf
  rcases List.mem_append.mp hf with hf | hf
  · exact hcauses (by rwa [ids_rooms]) (by simpa using hrooms) hf
  · simp only [placements,List.flatMap_assoc,List.mem_flatMap,List.mem_map,Option.mem_toList] at hf
    obtain ⟨room,hroom,_,⟨rect,_,rfl⟩,hf⟩ := hf
    have hmem : room ∈ rooms := by
      rwa [Plan.firstRooms,firstBy_of_nodup hd (by simp)] at hroom
    rw [placeRoom_eq] at hf
    exact hcauses (by rw [ids_parts]; exact hparts room hmem) (by simpa using hmost room hmem) hf

/-- The same of a whole plan. -/
theorem isOutOfPasses_of_mem_placePlan {config : LayoutConfig α} (hd : (rooms.map (·.id)).Nodup)
    (hparts : ∀ room ∈ rooms, (room.parts.map (·.id)).Nodup)
    (hrooms : rooms.length ≤ config.maxPasses)
    (hmost : ∀ room ∈ rooms, room.parts.length ≤ config.maxPasses) {f : Failure}
    (hf : f ∈ (placePlan config rooms).failures) : f.isOutOfPasses = false := by
  have hadvisory (hf : f ∈ originFailures config.originPolicy rooms) : f.isOutOfPasses = false := by
    unfold originFailures at hf
    split at hf
    · simp at hf
    · split at hf <;> simp_all [Failure.isOutOfPasses]
  unfold placePlan at hf
  simp only at hf
  split at hf
  · exact hadvisory hf
  · rcases List.mem_append.mp hf with hf | hf
    · exact hadvisory hf
    · exact isOutOfPasses_of_mem_placeRooms hd hparts hrooms hmost hf

/-- Below the bound on the passes, the order of rooms and parts makes no difference but to the order
in which they are told. -/
theorem placePlan_reordered (config : LayoutConfig α) (h : Reordered rooms' rooms)
    (hd : (rooms.map (·.id)).Nodup) (hparts : ∀ room ∈ rooms, (room.parts.map (·.id)).Nodup)
    (hrooms : rooms.length ≤ config.maxPasses)
    (hmost : ∀ room ∈ rooms, room.parts.length ≤ config.maxPasses) :
    (placePlan config rooms').SameUpToOrder (placePlan config rooms) ∧
      (∀ f ∈ (placePlan config rooms').failures, f.isOutOfPasses = false) ∧
      ∀ f ∈ (placePlan config rooms).failures, f.isOutOfPasses = false := by
  have hsame : (placePlan config rooms').SameUpToOrder (placePlan config rooms) := by
    have hplaced := placeRooms_of_reordered h hd hparts hrooms hmost
    unfold placePlan
    simp only [originFailures_of_perm config.originPolicy h.perm_blocks]
    split
    · exact ⟨.refl _,.refl _,.refl _⟩
    · refine ⟨hplaced.rooms,hplaced.parts,?_⟩
      simp only [List.map_append]
      exact hplaced.failures.append_left _
  have hnone (f : Failure) (hf : f ∈ (placePlan config rooms).failures) :
      f.isOutOfPasses = false := isOutOfPasses_of_mem_placePlan hd hparts hrooms hmost hf
  exact ⟨hsame,fun f hf => hsame.isOutOfPasses_eq_false hnone hf,hnone⟩

/-- A part of unit size at the top left corner of its target. -/
def unitPart (id target : String) : Part Rat := ⟨Pinning.unitBlock id target,[]⟩

/-- A room of unit size at the top left corner of its target. -/
def unitRoom (id target : String) (parts : List (Part Rat)) : Room Rat :=
  ⟨Pinning.unitBlock id target,parts,[]⟩

/-- A hall with two parts, a shed behind it, and two rooms that hang on each other. -/
def homestead : List (Room Rat) :=
  [unitRoom "hall" originName [unitPart "bay" parentName,unitPart "seat" "bay"],
    unitRoom "shed" "hall" [],unitRoom "left" "right" [],unitRoom "right" "left" []]

/-- The same rooms from the last to the first, and so the parts. -/
def homesteadBackwards : List (Room Rat) :=
  [unitRoom "right" "left" [],unitRoom "left" "right" [],unitRoom "shed" "hall" [],
    unitRoom "hall" originName [unitPart "seat" "bay",unitPart "bay" parentName]]

theorem reordered_homestead : Reordered homesteadBackwards homestead := by
  refine ⟨homesteadBackwards.reverse,(List.reverse_perm _).symm,?_⟩
  have hsame (room : Room Rat) : room.Shuffled room := ⟨room.parts,.refl _,rfl⟩
  exact .cons ⟨_,.swap _ _ _,rfl⟩ (.cons (hsame _) (.cons (hsame _) (.cons (hsame _) .nil)))

theorem placePlan_reordered_homestead :
    Reordered homesteadBackwards homestead ∧ (homestead.map (·.id)).Nodup ∧
    (∀ room ∈ homestead, (room.parts.map (·.id)).Nodup) ∧
    homestead.length ≤ (LayoutConfig.standard : LayoutConfig Rat).maxPasses ∧
    (∀ room ∈ homestead,
      room.parts.length ≤ (LayoutConfig.standard : LayoutConfig Rat).maxPasses) ∧
    (placePlan .standard homesteadBackwards).failures = [.cycle ["right","left"]] ∧
    (placePlan .standard homestead).failures = [.cycle ["left","right"]] ∧
    (placePlan .standard homesteadBackwards).SameUpToOrder (placePlan .standard homestead) ∧
    (∀ f ∈ (placePlan .standard homesteadBackwards).failures, f.isOutOfPasses = false) ∧
    ∀ f ∈ (placePlan .standard homestead).failures, f.isOutOfPasses = false :=
  ⟨reordered_homestead,by decide +kernel,by decide +kernel,by decide +kernel,by decide +kernel,
    by decide +kernel,by decide +kernel,
    placePlan_reordered .standard reordered_homestead (by decide +kernel) (by decide +kernel)
      (by decide +kernel) (by decide +kernel)⟩

end Blueprint
