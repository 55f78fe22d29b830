import Blueprint.Proofs.Layout.Contents
import Blueprint.Proofs.Plan.Reference

/-!
The names of a layout. Ids of a valid plan have no dot, and full names of parts have one, so no two
rooms and parts of a layout have one name. An opening that names a room or part in full is cut into
a wall of just that one.
-/

namespace Blueprint

variable {α : Type}

theorem Host.text_ne_empty {host : Host α} (h : ∀ placed, host = .room placed → placed.id ≠ "") :
    host.text ≠ "" := by
  cases host with
  | room placed => exact h placed rfl
  | part placed => simp [Host.text,PartKey.text]

variable [Scalar α] {plan : Plan α} {config : LayoutConfig α}

theorem plainId_of_mem_rooms (hvalid : plan.isValid = true) {room : PlacedRoom α}
    (h : room ∈ (plan.layout config).rooms) : PlainId room.id := by
  have hid := (ids_placePlan_sublist config plan).subset (List.mem_map_of_mem h)
  obtain ⟨declared,hdeclared,hid⟩ := List.mem_map.mp hid
  have hmem := List.mem_of_find?_eq_some (Plan.mem_firstRooms_iff.mp hdeclared)
  exact hid ▸ Plan.plainId_room hvalid hmem

theorem noDot_of_mem_parts (hvalid : plan.isValid = true) {part : PlacedPart α}
    (h : part ∈ (plan.layout config).parts) : '.' ∉ part.key.room.toList := by
  obtain ⟨room,hroom,hid⟩ := exists_room_of_mem_parts h
  exact hid ▸ (Plan.plainId_room hvalid hroom).noDot

theorem nodup_parts_text (hvalid : plan.isValid = true) :
    ((plan.layout config).parts.map (·.key.text)).Nodup := by
  have hkeys := nodup_keys_layout plan config
  have hinj : ∀ key ∈ (plan.layout config).parts.map (·.key),
      ∀ key' ∈ (plan.layout config).parts.map (·.key), key.text = key'.text → key = key' := by
    intro key hkey key' hkey' he
    obtain ⟨part,hpart,rfl⟩ := List.mem_map.mp hkey
    obtain ⟨part',hpart',rfl⟩ := List.mem_map.mp hkey'
    exact (PartKey.text_inj (noDot_of_mem_parts hvalid hpart)
      (noDot_of_mem_parts hvalid hpart')).mp he
  simpa [Function.comp_def] using hkeys.map_on hinj

/-- Rooms are told from parts by the dot, and parts from each other by their keys. -/
theorem nodup_hosts_text (hvalid : plan.isValid = true) :
    ((plan.layout config).hosts.map Host.text).Nodup := by
  rw [((hosts_perm plan config).map Host.text).nodup_iff,List.map_append,List.map_map,List.map_map,
    List.nodup_append]
  refine ⟨nodup_ids_layout plan config,nodup_parts_text hvalid,?_⟩
  intro s hs t ht he
  obtain ⟨room,hroom,rfl⟩ := List.mem_map.mp hs
  obtain ⟨part,_,rfl⟩ := List.mem_map.mp ht
  exact PartKey.ne_text (plainId_of_mem_rooms hvalid hroom).noDot part.key he

/-- A host is found by its name. -/
theorem hosting?_text (hvalid : plan.isValid = true) {host : Host α}
    (h : host ∈ (plan.layout config).hosts) :
    (placePlan config plan.rooms).hosting? host.text = some host := by
  have hdots : ∀ part ∈ (placePlan config plan.rooms).parts, '.' ∉ part.key.room.toList :=
    fun part hpart => noDot_of_mem_parts hvalid hpart
  rw [Placement.hosting?,Placement.qualified?_eq_find? hdots]
  cases host with
  | part placed =>
    have hfind : (placePlan config plan.rooms).parts.find?
        (·.key.text == placed.key.text) = some placed :=
      (find?_key_eq_some_iff (nodup_parts_text hvalid)).mpr
        ⟨(mem_hosts_part plan config).mp h,rfl⟩
    rw [Host.text,hfind]
    rfl
  | room placed =>
    have hroom := (mem_hosts_room plan config).mp h
    have hnone : (placePlan config plan.rooms).parts.find? (·.key.text == placed.id) = none := by
      have hplain := plainId_of_mem_rooms hvalid hroom
      exact List.find?_eq_none.mpr fun part _ he =>
        PartKey.ne_text hplain.noDot part.key (beq_iff_eq.mp he).symm
    have hfind : (placePlan config plan.rooms).room? placed.id = some placed :=
      (find?_key_eq_some_iff (nodup_ids_layout plan config)).mpr ⟨hroom,rfl⟩
    rw [Host.text,hnone,hfind]
    rfl

/-- Names tell the rooms and parts of a layout apart. -/
structure Plan.Unambiguous (plan : Plan α) (config : LayoutConfig α) : Prop where
  /-- No two of them have one name. -/
  names : ((plan.layout config).rooms.map (·.id) ++
    (plan.layout config).parts.map (·.key.text)).Nodup
  /-- An opening that names a room and a wall is in this wall of this room. -/
  room : ∀ room ∈ (plan.layout config).rooms, ∀ wall, ∀ o ∈ plan.openings,
    o.room = (WallReference.mk room.id wall).text →
      (plan.layout config).opening? o.slot = some (o.placedOn config wall room.id room.rect)
  /-- The same of parts, by their full names. -/
  part : ∀ part ∈ (plan.layout config).parts, ∀ wall, ∀ o ∈ plan.openings,
    o.room = (WallReference.mk part.key.text wall).text →
      (plan.layout config).opening? o.slot = some (o.placedOn config wall part.key.text part.rect)

/-- An opening that names a host is in a wall of this host. -/
theorem opening?_of_host (hvalid : plan.isValid = true) {host : Host α}
    (h : host ∈ (plan.layout config).hosts) {wall : Wall} {o : Opening α}
    (ho : o ∈ plan.openings) (hnamed : o.room = (WallReference.mk host.text wall).text) :
    (plan.layout config).opening? o.slot = some (o.placedOn config wall host.text host.rect) := by
  have hne : host.text ≠ "" := Host.text_ne_empty fun placed he =>
    (plainId_of_mem_rooms hvalid ((mem_hosts_room plan config).mp (he ▸ h))).ne_empty
  have hparse : WallReference.parse o.room = .ok ⟨host.text,wall⟩ := by
    rw [hnamed,WallReference.parse_text hne]
  rw [opening?_layout ho,toOption_placeOpening hparse,Placement.host?_eq_hosting?,
    hosting?_text hvalid h]
  rfl

/-- The names of a valid plan are unambiguous. -/
theorem layout_unambiguous (plan : Plan α) (config : LayoutConfig α)
    (hvalid : plan.isValid = true) : plan.Unambiguous config where
  names := by
    have h : ((plan.layout config).hosts.map Host.text).Nodup := nodup_hosts_text hvalid
    rwa [((hosts_perm plan config).map Host.text).nodup_iff,List.map_append,List.map_map,
      List.map_map] at h
  room room hroom wall o ho hnamed :=
    opening?_of_host hvalid ((mem_hosts_room plan config).mpr hroom) ho hnamed
  part part hpart wall o ho hnamed :=
    opening?_of_host hvalid ((mem_hosts_part plan config).mpr hpart) ho hnamed

/-- A room, a part that shares its id, and a window in a wall of each. -/
def sharedIds : Plan Rat where
  rooms := [unitRoom "hall" originName [unitPart "hall" parentName]]
  doors := []
  windows := [⟨"hall.hall:left",0,1,none⟩,⟨"hall:top",0,1,none⟩]

theorem layout_unambiguous_sharedIds :
    sharedIds.isValid = true ∧
    (sharedIds.layout .standard).openings.map (fun o => (o.slot,o.host,o.wall)) =
      [((.window,0),"hall.hall",.left),((.window,1),"hall",.top)] ∧
    sharedIds.Unambiguous .standard :=
  ⟨by decide +kernel,by decide +kernel,layout_unambiguous sharedIds .standard (by decide +kernel)⟩

end Blueprint
