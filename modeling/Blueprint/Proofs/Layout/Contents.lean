import Blueprint.Proofs.Layout.Policy
import Blueprint.Proofs.Layout.Hosting
import Blueprint.Proofs.Decimal.Unpacked

/-!
The things of a layout, counted against its plan. Rooms, parts, shapes, furnishings and openings are
listed by separate passes over the plan. Every list holds what it should exactly once, in order, and
speaks of nothing that the other lists do not have.
-/

namespace Blueprint

/-! ### Lists by key -/

section Keys

variable {β κ : Type} [BEq κ] [LawfulBEq κ] {key : β → κ}

/-- What is listed key by key is the list itself, in another order. -/
theorem perm_flatMap_filter {keys : List κ} {l : List β} (hd : keys.Nodup)
    (hcover : ∀ b ∈ l, key b ∈ keys) :
    (keys.flatMap fun k => l.filter (key · == k)).Perm l := by
  induction keys generalizing l with
  | nil =>
    obtain rfl : l = [] := List.eq_nil_iff_forall_not_mem.mpr fun b hb =>
      List.not_mem_nil (hcover b hb)
    rfl
  | cons k keys ih =>
    rw [List.nodup_cons] at hd
    -- the other keys take nothing from what has the first one
    have hrest : (keys.flatMap fun k' => l.filter (key · == k')) =
        keys.flatMap fun k' => (l.filter fun b => !(key b == k)).filter (key · == k') := by
      refine List.flatMap_congr fun k' hk' => ?_
      rw [List.filter_filter]
      refine List.filter_congr fun b _ => ?_
      by_cases hb : key b = k'
      · have hne : k' ≠ k := fun he => hd.1 (he ▸ hk')
        simp [hb,hne]
      · simp [hb]
    have hcover' : ∀ b ∈ l.filter (fun b => !(key b == k)), key b ∈ keys := by
      intro b hb
      obtain ⟨hb,hne⟩ := List.mem_filter.mp hb
      exact (List.mem_cons.mp (hcover b hb)).resolve_left (by simpa using hne)
    rw [List.flatMap_cons,hrest]
    exact ((ih hd.2 hcover').append_left _).trans (List.filter_append_perm _ l)

omit [BEq κ] [LawfulBEq κ] in
/-- What one item alone contributes. -/
theorem flatMap_eq_of_key {γ : Type} {f : β → List γ} {l : List β} (hd : (l.map key).Nodup) {b : β}
    (hb : b ∈ l) (hnone : ∀ c ∈ l, key c ≠ key b → f c = []) : l.flatMap f = f b := by
  induction l with
  | nil => cases hb
  | cons c l ih =>
    rw [List.map_cons,List.nodup_cons] at hd
    obtain ⟨hc,hl⟩ := List.forall_mem_cons.mp hnone
    rw [List.flatMap_cons]
    rcases List.mem_cons.mp hb with rfl | hb
    · have hrest : l.flatMap f = [] := List.flatMap_eq_nil_iff.mpr fun c hc =>
        hl c hc fun he => hd.1 (he ▸ List.mem_map_of_mem hc)
      rw [hrest,List.append_nil]
    · rw [hc fun he => hd.1 (he ▸ List.mem_map_of_mem hb),ih hd.2 hb hl,List.nil_append]

/-- What belongs to one item is found again by the key. -/
theorem filter_flatMap_of_key {γ : Type} {f : β → List γ} {owner : γ → κ} {l : List β}
    (hd : (l.map key).Nodup) (howner : ∀ b ∈ l, ∀ c ∈ f b, owner c = key b) {b : β} (hb : b ∈ l) :
    (l.flatMap f).filter (owner · == key b) = f b := by
  have hnone : ∀ b' ∈ l, key b' ≠ key b → (f b').filter (owner · == key b) = [] := by
    intro b' hb' hne
    refine List.filter_eq_nil_iff.mpr fun c hc => ?_
    rw [howner b' hb' c hc,beq_iff_eq]
    exact hne
  rw [List.filter_flatMap,flatMap_eq_of_key hd hb hnone]
  exact List.filter_eq_self.mpr fun c hc => beq_iff_eq.mpr (howner b hb c hc)

end Keys

variable {α : Type}

/-! ### Hosts -/

/-- The rooms and parts of a layout, every room before its parts. -/
def Layout.hosts (layout : Layout α) : List (Host α) :=
  layout.rooms.flatMap fun room => .room room :: (partsOf layout.parts room.id).map .part

/-- What the first declaration of a room or part is furnished with. -/
def Plan.furnishings? (plan : Plan α) : Host α → Option (List (Furnishing α))
  | .room placed => (plan.room? placed.id).map (·.furnishings)
  | .part placed => (plan.part? placed.key).map (·.furnishings)

/-- The keys of the parts of a room. -/
theorem Plan.partKeys_of_room {plan : Plan α} {room : Room α}
    (h : room ∈ Plan.firstRooms plan.rooms) : plan.partKeys.filter (·.room == room.id) =
      (firstBy (·.id) [] room.parts).map fun part => ⟨room.id,part.id⟩ := by
  refine filter_flatMap_of_key plan.nodup_roomIds (fun r _ key hkey => ?_) h
  obtain ⟨_,_,rfl⟩ := List.mem_map.mp hkey
  rfl

variable [Scalar α] (plan : Plan α) (config : LayoutConfig α)

theorem nodup_ids_layout : ((plan.layout config).rooms.map (·.id)).Nodup :=
  plan.nodup_roomIds.sublist (ids_placePlan_sublist config plan)

theorem nodup_keys_layout : ((plan.layout config).parts.map (·.key)).Nodup :=
  plan.nodup_partKeys.sublist (keys_placePlan_sublist config plan)

/-- The room of a placed part has its place. -/
theorem room_mem_of_mem_parts {part : PlacedPart α}
    (h : part ∈ (placePlan config plan.rooms).parts) :
    part.key.room ∈ (placePlan config plan.rooms).rooms.map (·.id) := by
  rw [placePlan_eq] at h ⊢
  have hpart : (part.key,part.rect) ∈ (placeRooms config.maxPasses plan.rooms).partRects :=
    List.mem_map.mpr ⟨part,h,rfl⟩
  obtain ⟨_,parent,_,hparent,_⟩ := mem_partRects_placeRooms.mp hpart
  obtain ⟨room,hroom,heq⟩ := List.mem_map.mp hparent
  exact List.mem_map.mpr ⟨room,hroom,(Prod.mk.inj heq).1⟩

/-- Every placed room and part is a host, and nothing else. -/
theorem hosts_perm : (plan.layout config).hosts.Perm
    ((plan.layout config).rooms.map .room ++ (plan.layout config).parts.map .part) := by
  have hparts : ((plan.layout config).rooms.flatMap fun room =>
      partsOf (plan.layout config).parts room.id).Perm (plan.layout config).parts := by
    have h : (((plan.layout config).rooms.map (·.id)).flatMap
        (partsOf (plan.layout config).parts)).Perm (plan.layout config).parts :=
      perm_flatMap_filter (nodup_ids_layout plan config) fun part =>
        room_mem_of_mem_parts plan config
    rwa [List.flatMap_map] at h
  refine (List.flatMap_append_perm _ (fun room => [Host.room room]) _).symm.trans ?_
  rw [← List.map_eq_flatMap,← List.map_flatMap]
  exact (hparts.map Host.part).append_left _

theorem mem_hosts_room {room : PlacedRoom α} :
    .room room ∈ (plan.layout config).hosts ↔ room ∈ (plan.layout config).rooms := by
  simp [(hosts_perm plan config).mem_iff]

theorem mem_hosts_part {part : PlacedPart α} :
    .part part ∈ (plan.layout config).hosts ↔ part ∈ (plan.layout config).parts := by
  simp [(hosts_perm plan config).mem_iff]

theorem nodup_hosts : (plan.layout config).hosts.Nodup := by
  have hrooms := (nodup_ids_layout plan config).of_map
  have hparts := (nodup_keys_layout plan config).of_map
  rw [(hosts_perm plan config).nodup_iff,List.nodup_append]
  refine ⟨hrooms.map fun _ _ h => Host.room.inj h,hparts.map fun _ _ h => Host.part.inj h,?_⟩
  intro s hs t ht
  obtain ⟨_,_,rfl⟩ := List.mem_map.mp hs
  obtain ⟨_,_,rfl⟩ := List.mem_map.mp ht
  simp

theorem rects_layout_eq :
    (plan.layout config).rects = (plan.layout config).hosts.map Host.rect := by
  simp only [Layout.rects,Layout.hosts,Plan.layout,compositeOf,List.flatMap_map,List.map_flatMap]
  exact List.flatMap_congr fun room _ => by simp [Composite.ofRects,Host.rect,Function.comp_def]

/-! ### Furnishings -/

/-- The parts of a room, looked up in the order of declaration. -/
theorem partsOf_layout {room : Room α} (h : room ∈ Plan.firstRooms plan.rooms) :
    partsOf (placePlan config plan.rooms).parts room.id =
      (firstBy (·.id) [] room.parts).flatMap fun part =>
        ((placePlan config plan.rooms).part? ⟨room.id,part.id⟩).toList := by
  let parts := (placePlan config plan.rooms).parts
  have hsub : ((partsOf parts room.id).map (·.key)).Sublist
      ((firstBy (·.id) [] room.parts).map fun part => ⟨room.id,part.id⟩) := by
    have hkeys := (keys_placePlan_sublist config plan).filter (·.room == room.id)
    rwa [Plan.partKeys_of_room h,List.filter_map] at hkeys
  have hd : ((firstBy (·.id) [] room.parts).map fun part =>
      PartKey.mk room.id part.id).Nodup := by
    rw [← Plan.partKeys_of_room h]
    exact plan.nodup_partKeys.filter _
  rw [← flatMap_find?_of_sublist hd hsub,List.flatMap_map]
  refine List.flatMap_congr fun part _ => congrArg Option.toList ?_
  -- what has the key belongs to the room
  rw [partsOf,List.find?_filter,Placement.part?]
  refine List.find?_congr fun placed _ => ?_
  by_cases hkey : placed.key = ⟨room.id,part.id⟩ <;> simp [hkey]

/-- Every host is declared, and has the furnishings of its first declaration in their order. -/
theorem furnishings_layout_eq : (plan.layout config).furnishings =
    (plan.layout config).hosts.flatMap fun host =>
      placeFurnishings host.text host.rect ((plan.furnishings? host).getD []) := by
  let p := placePlan config plan.rooms
  have hrooms : (plan.layout config).rooms =
      (Plan.firstRooms plan.rooms).flatMap fun room => (p.room? room.id).toList := by
    have h := flatMap_find?_of_sublist plan.nodup_roomIds (ids_placePlan_sublist config plan)
    rw [Plan.roomIds,List.flatMap_map] at h
    exact h.symm
  rw [Layout.hosts,hrooms,List.flatMap_assoc,List.flatMap_assoc]
  refine List.flatMap_congr fun room hroom => ?_
  have hdeclared : plan.room? room.id = some room := Plan.mem_firstRooms_iff.mp hroom
  change p.furnishingsOf room = _
  unfold Placement.furnishingsOf
  cases hplaced : p.room? room.id with
  | none => rfl
  | some placed =>
    have hid : placed.id = room.id := by simpa using List.find?_some hplaced
    have hparts : partsOf (plan.layout config).parts placed.id =
        (firstBy (·.id) [] room.parts).flatMap fun part => (p.part? ⟨room.id,part.id⟩).toList :=
      hid ▸ partsOf_layout plan config hroom
    rw [Option.toList_some,List.flatMap_singleton,List.flatMap_cons,hparts,List.map_flatMap,
      List.flatMap_assoc]
    refine congrArg₂ List.append ?_ (List.flatMap_congr fun part hpart => ?_)
    · simp [Host.text,Host.rect,Plan.furnishings?,hid,hdeclared]
    · dsimp only
      cases hplaced : p.part? ⟨room.id,part.id⟩ with
      | none => rfl
      | some placed =>
        have hkey : placed.key = ⟨room.id,part.id⟩ := by simpa using List.find?_some hplaced
        have hdeclared : plan.part? ⟨room.id,part.id⟩ = some part := by
          rw [Plan.part?,hdeclared]
          exact mem_firstBy_nil_iff.mp hpart
        simp [Host.text,Host.rect,Plan.furnishings?,hdeclared,hkey]

theorem labels_placeFurnishings (name : String) (host : Rect α) (fs : List (Furnishing α)) :
    (placeFurnishings name host fs).map (fun f => (f.host,f.index)) =
      (List.range fs.length).map (name,·) :=
  List.ext_getElem (by simp [placeFurnishings]) fun i _ _ => by simp [placeFurnishings]

/-- The furnishings of a host have its name, and are numbered from zero. -/
theorem labels_layout : (plan.layout config).furnishings.map (fun f => (f.host,f.index)) =
    (plan.layout config).hosts.flatMap fun host =>
      (List.range ((plan.furnishings? host).getD []).length).map (host.text,·) := by
  rw [furnishings_layout_eq,List.map_flatMap]
  exact List.flatMap_congr fun host _ => labels_placeFurnishings host.text host.rect _

/-- Whatever has its place is declared. -/
theorem isSome_furnishings? {host : Host α} (h : host ∈ (plan.layout config).hosts) :
    (plan.furnishings? host).isSome := by
  cases host with
  | room placed =>
    have hid := (ids_placePlan_sublist config plan).subset
      (List.mem_map_of_mem ((mem_hosts_room plan config).mp h))
    obtain ⟨room,hroom,hid⟩ := List.mem_map.mp hid
    have hdeclared : plan.room? placed.id = some room := hid ▸ Plan.mem_firstRooms_iff.mp hroom
    simp [Plan.furnishings?,hdeclared]
  | part placed =>
    have hkey := (keys_placePlan_sublist config plan).subset
      (List.mem_map_of_mem ((mem_hosts_part plan config).mp h))
    obtain ⟨room,hroom,hkey⟩ := List.mem_flatMap.mp hkey
    obtain ⟨part,hpart,hkey⟩ := List.mem_map.mp hkey
    have hdeclared : plan.part? placed.key = some part := by
      rw [← hkey,Plan.part?,Plan.mem_firstRooms_iff.mp hroom]
      exact mem_firstBy_nil_iff.mp hpart
    simp [Plan.furnishings?,hdeclared]

/-! ### Openings -/

/-- The element and the reference that a failure tells of an opening. -/
def Failure.opening? : Failure → Option (String × String)
  | wallReference element reference _ => some (element,reference)
  | _ => none

/-- The name that an opening has in failures. -/
def Opening.ordinal (o : Opening α) : String := o.kind.ordinal o.index

/-- A kind and a number are read off a text of both, whatever stands between them. -/
theorem OpeningKind.numbered_inj {k k' : OpeningKind} {mark : String} {i i' : Nat} :
    k.name ++ mark ++ i.repr = k'.name ++ mark ++ i'.repr ↔ k = k' ∧ i = i' := by
  constructor
  · intro h
    have h := congrArg String.toList h
    simp only [String.toList_append,Nat.toList_repr,List.append_assoc] at h
    have hkind : k = k' := by
      cases k <;> cases k' <;> simp [OpeningKind.name] at h ⊢
    subst hkind
    have hdigits := congrArg (Nat.ofDigitChars 10 · 0)
      (List.append_cancel_left (List.append_cancel_left h))
    exact ⟨rfl,by simpa [Nat.ofDigitChars_ten_toDigits] using hdigits⟩
  · rintro ⟨rfl,rfl⟩
    rfl

theorem OpeningKind.ordinal_inj {k k' : OpeningKind} {i i' : Nat} :
    k.ordinal i = k'.ordinal i' ↔ k = k' ∧ i = i' := by
  have htext (k : OpeningKind) (i : Nat) : k.ordinal i = k.name ++ " #" ++ (i + 1).repr := rfl
  rw [htext,htext,numbered_inj,Nat.add_right_cancel_iff]

omit [Scalar α] in
theorem Plan.nodup_ordinals : (plan.openings.map Opening.ordinal).Nodup := by
  have hslots := List.pairwise_map.mp plan.nodup_slots
  refine List.pairwise_map.mpr (hslots.imp fun hne he => ?_)
  obtain ⟨hkind,hindex⟩ := OpeningKind.ordinal_inj.mp he
  exact hne (Prod.ext hkind hindex)

/-- The numbers of the placed openings. -/
theorem slots_layout : (plan.layout config).openings.map PlacedOpening.slot =
    (plan.openings.filter fun o => ((plan.layout config).opening? o.slot).isSome).map
      Opening.slot := by
  rw [openings_layout_eq,List.map_filterMap,← List.filterMap_eq_map,List.filterMap_filter]
  refine List.filterMap_congr fun o ho => ?_
  rw [opening?_layout ho]
  cases h : (placeOpening config (placePlan config plan.rooms) o).toOption with
  | none => rfl
  | some placed => simp [slot_of_placeOpening h]

theorem nodup_slots_layout : ((plan.layout config).openings.map PlacedOpening.slot).Nodup := by
  rw [slots_layout]
  exact plan.nodup_slots.sublist (List.filter_sublist.map Opening.slot)

theorem filterMap_opening?_failures : (plan.layout config).failures.filterMap Failure.opening? =
    (plan.openings.filter fun o => ((plan.layout config).opening? o.slot).isNone).map fun o =>
      (o.ordinal,o.room) := by
  have hrooms : (placePlan config plan.rooms).failures.filterMap Failure.opening? = [] := by
    rw [List.filterMap_eq_nil_iff]
    intro f hf
    have hkind := isWallReference_of_mem_placePlan hf
    cases f <;> first | rfl | cases hkind
  rw [failures_layout,List.filterMap_append,hrooms,List.nil_append,Plan.openingFailures,
    List.filterMap_filterMap,List.filterMap_map,← List.filterMap_eq_map,List.filterMap_filter]
  refine List.filterMap_congr fun o ho => ?_
  rw [opening?_layout ho,Function.comp_apply]
  cases h : placeOpening config (placePlan config plan.rooms) o with
  | ok placed => rfl
  | error f =>
    obtain ⟨reason,rfl⟩ := wallReference_of_placeOpening h
    rfl

/-- What a name refers to is a host. -/
theorem mem_hosts_of_hosting? {name : String} {host : Host α}
    (h : (placePlan config plan.rooms).hosting? name = some host) :
    host ∈ (plan.layout config).hosts := by
  rw [Placement.hosting?,Option.or_eq_some_iff,Option.or_eq_some_iff] at h
  rcases h with h | ⟨_,h | ⟨_,h⟩⟩
  · obtain ⟨part,hpart,rfl⟩ := Option.map_eq_some_iff.mp h
    obtain ⟨_,_,hpart⟩ := Option.bind_eq_some_iff.mp hpart
    exact (mem_hosts_part plan config).mpr (List.mem_of_find?_eq_some hpart)
  · obtain ⟨room,hroom,rfl⟩ := Option.map_eq_some_iff.mp h
    exact (mem_hosts_room plan config).mpr (List.mem_of_find?_eq_some hroom)
  · obtain ⟨part,hpart,rfl⟩ := Option.map_eq_some_iff.mp h
    exact (mem_hosts_part plan config).mpr (List.mem_of_find?_eq_some hpart)

/-- A placed opening is one of the plan, cut into the wall that it names of a host. -/
theorem exists_host_of_mem_openings {placed : PlacedOpening α}
    (h : placed ∈ (plan.layout config).openings) :
    ∃ o ∈ plan.openings, ∃ host ∈ (plan.layout config).hosts,
      placed = o.placedOn config placed.wall host.text host.rect := by
  rw [openings_layout_eq] at h
  obtain ⟨o,ho,hplaced⟩ := List.mem_filterMap.mp h
  cases hparse : WallReference.parse o.room with
  | error e =>
    unfold placeOpening at hplaced
    rw [hparse] at hplaced
    cases hplaced
  | ok reference =>
    rw [toOption_placeOpening hparse,Placement.host?_eq_hosting?,Option.map_map] at hplaced
    obtain ⟨host,hhost,rfl⟩ := Option.map_eq_some_iff.mp hplaced
    exact ⟨o,ho,host,mem_hosts_of_hosting? plan config hhost,rfl⟩

/-! ### Walls -/

/-- The coordinate that all points of a wall have. -/
def Rect.level (r : Rect α) : Wall → α
  | .top => r.y
  | .bottom => r.bottom
  | .left => r.x
  | .right => r.right

omit [Scalar α] in
/-- The coordinate of a point that tells whether it is on the line of a wall. -/
def Point.across (p : Point α) (w : Wall) : α := if w.isHorizontal then p.y else p.x

variable {same : α → α → Prop}

/-- An opening is on the line of its wall, as far as adding zero leaves a coordinate the same. -/
theorem same_across_placeOnWall (hself : ∀ a, same a a)
    (hzero : ∀ a b, same a b → same (a + Scalar.zero) b) (rect : Rect α) (wall : Wall)
    (offset width : α) :
    same ((placeOnWall rect wall offset width).position.across wall) (rect.level wall) := by
  cases wall
  case top => exact hzero _ _ (hzero _ _ (hself rect.y))
  case bottom => exact hzero _ _ (hself rect.bottom)
  case left => exact hzero _ _ (hzero _ _ (hself rect.x))
  case right => exact hzero _ _ (hself rect.right)

/-! ### The layout -/

/-- All that a layout lists is accounted for. Coordinates are compared by a relation. -/
structure Plan.Accounted (plan : Plan α) (config : LayoutConfig α) (same : α → α → Prop) :
    Prop where
  /-- Every room has one shape: its own rectangle, then those of its parts. -/
  composites : (plan.layout config).composites.map (fun shape => (shape.1,shape.2.rectangles)) =
    (plan.layout config).rooms.map fun room =>
      (room.id,room.rect :: (partsOf (plan.layout config).parts room.id).map (·.rect))
  rooms : ((plan.layout config).rooms.map (·.id)).Sublist plan.roomIds ∧ plan.roomIds.Nodup
  parts : ((plan.layout config).parts.map (·.key)).Sublist plan.partKeys ∧ plan.partKeys.Nodup
  /-- Every room and part is a host once, and nothing else is. -/
  hosts : (plan.layout config).hosts.Perm
    ((plan.layout config).rooms.map .room ++ (plan.layout config).parts.map .part)
  nodup : (plan.layout config).hosts.Nodup
  rects : (plan.layout config).rects = (plan.layout config).hosts.map Host.rect
  declared : ∀ host ∈ (plan.layout config).hosts, (plan.furnishings? host).isSome
  /-- Host by host, the furnishings of the first declarations in their order. -/
  furnishings : (plan.layout config).furnishings =
    (plan.layout config).hosts.flatMap fun host =>
      placeFurnishings host.text host.rect ((plan.furnishings? host).getD [])
  /-- They have the name of their host, and numbers up to as many as it declares. -/
  labels : (plan.layout config).furnishings.map (fun f => (f.host,f.index)) =
    (plan.layout config).hosts.flatMap fun host =>
      (List.range ((plan.furnishings? host).getD []).length).map (host.text,·)
  /-- Doors come before windows, and both are numbered in order. -/
  slots : plan.openings.map Opening.slot =
    (List.range plan.doors.length).map (OpeningKind.door,·) ++
      (List.range plan.windows.length).map (OpeningKind.window,·)
  /-- Some openings are placed, and the others are told, all in their order. -/
  placed : (plan.layout config).openings.map PlacedOpening.slot =
    (plan.openings.filter fun o => ((plan.layout config).opening? o.slot).isSome).map Opening.slot
  told : (plan.layout config).failures.filterMap Failure.opening? =
    (plan.openings.filter fun o => ((plan.layout config).opening? o.slot).isNone).map fun o =>
      (o.ordinal,o.room)
  ordinals : (plan.openings.map Opening.ordinal).Nodup
  /-- An opening that is placed is in a wall of a host. -/
  hosted : ∀ o ∈ (plan.layout config).openings, ∃ host ∈ (plan.layout config).hosts,
    o.host = host.text ∧ o.wallLength = host.rect.side o.wall ∧
      same (o.position.across o.wall) (host.rect.level o.wall)

theorem accounted_of_same (hself : ∀ a, same a a)
    (hzero : ∀ a b, same a b → same (a + Scalar.zero) b) : plan.Accounted config same where
  composites := by
    simp only [Plan.layout,List.map_map]
    rfl
  rooms := ⟨ids_placePlan_sublist config plan,plan.nodup_roomIds⟩
  parts := ⟨keys_placePlan_sublist config plan,plan.nodup_partKeys⟩
  hosts := hosts_perm plan config
  nodup := nodup_hosts plan config
  rects := rects_layout_eq plan config
  declared _ h := isSome_furnishings? plan config h
  furnishings := furnishings_layout_eq plan config
  labels := labels_layout plan config
  slots := plan.slots_eq
  placed := slots_layout plan config
  told := filterMap_opening?_failures plan config
  ordinals := plan.nodup_ordinals
  hosted placed h := by
    obtain ⟨o,_,host,hhost,hplaced⟩ := exists_host_of_mem_openings plan config h
    rw [hplaced]
    exact ⟨host,hhost,rfl,rfl,same_across_placeOnWall hself hzero host.rect _ o.offset o.width⟩

/-- Nothing of a layout is lost, listed twice or left hanging: exactly where coordinates are exact,
and where they are floats up to the sign of zero. -/
theorem layout_accounted :
    (∀ (plan : Plan Rat) (config : LayoutConfig Rat), plan.Accounted config (· = ·)) ∧
    ∀ (plan : Plan Float) (config : LayoutConfig Float),
      plan.Accounted config fun a b => b.isNaN = false → (a == b) = true := by
  refine ⟨fun plan config => ?_,fun plan config => ?_⟩
  · refine accounted_of_same plan config (fun _ => rfl) fun a b h => ?_
    rw [h,Scalar.zero_rat,add_zero]
  · exact accounted_of_same plan config (fun _ => Decimal.beq_self) fun _ _ h hnumber =>
      Decimal.beq_add_zero (h hnumber)

end Blueprint
