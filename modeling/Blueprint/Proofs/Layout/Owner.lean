import Blueprint.Proofs.Layout.Unambiguous

/-!
The rooms that furnishings belong to. A furnishing tells its host by name only; in the layout of a
valid plan the name leads to the host, and the host to its room. Taken room by room, the furnishings
of a layout are all of its furnishings, in their order.
-/

namespace Blueprint

variable {α : Type}

/-- The room that the host of a name is, or is a part of. -/
def Layout.owner? (layout : Layout α) (name : String) : Option String :=
  (layout.hosts.find? (·.text == name)).map Host.owner

/-- The furnishings of a room and its parts, in the order of the layout. -/
def Layout.belongings (layout : Layout α) (room : String) : List (PlacedFurnishing α) :=
  layout.furnishings.filter (layout.owner? ·.host == some room)

/-- A room with its parts. -/
def Layout.hostsIn (layout : Layout α) (room : PlacedRoom α) : List (Host α) :=
  .room room :: (partsOf layout.parts room.id).map .part

theorem Layout.hosts_eq (layout : Layout α) : layout.hosts = layout.rooms.flatMap layout.hostsIn :=
  rfl

theorem Layout.owner_of_mem_hostsIn {layout : Layout α} {room : PlacedRoom α} {host : Host α}
    (h : host ∈ layout.hostsIn room) : host.owner = room.id := by
  rcases List.mem_cons.mp h with rfl | h
  · rfl
  · obtain ⟨part,hpart,rfl⟩ := List.mem_map.mp h
    exact beq_iff_eq.mp (List.mem_filter.mp hpart).2

theorem owner_of_mem_hosts {layout : Layout α} {host : Host α} (h : host ∈ layout.hosts) :
    host.owner ∈ layout.rooms.map (·.id) := by
  obtain ⟨room,hroom,h⟩ := List.mem_flatMap.mp h
  exact List.mem_map.mpr ⟨room,hroom,(Layout.owner_of_mem_hostsIn h).symm⟩

variable [Scalar α]

theorem host_of_mem_placeFurnishings {name : String} {rect : Rect α} {fs : List (Furnishing α)}
    {f : PlacedFurnishing α} (h : f ∈ placeFurnishings name rect fs) : f.host = name := by
  obtain ⟨i,hi,rfl⟩ := List.mem_mapIdx.mp h
  rfl

variable {plan : Plan α} {config : LayoutConfig α}

/-- The name of a host leads to the room that it belongs to. -/
theorem owner?_text (hvalid : plan.isValid = true) {host : Host α}
    (h : host ∈ (plan.layout config).hosts) :
    (plan.layout config).owner? host.text = some host.owner := by
  have hfind : (plan.layout config).hosts.find? (·.text == host.text) = some host :=
    (find?_key_eq_some_iff (nodup_hosts_text hvalid)).mpr ⟨h,rfl⟩
  rw [Layout.owner?,hfind]
  rfl

/-- A furnishing stands in a host of the layout. -/
theorem exists_host_of_mem_furnishings {f : PlacedFurnishing α}
    (h : f ∈ (plan.layout config).furnishings) :
    ∃ host ∈ (plan.layout config).hosts, f.host = host.text := by
  rw [furnishings_layout_eq] at h
  obtain ⟨host,hhost,h⟩ := List.mem_flatMap.mp h
  exact ⟨host,hhost,host_of_mem_placeFurnishings h⟩

/-- Room by room, the belongings of rooms are the furnishings of the layout. -/
theorem flatMap_belongings (hvalid : plan.isValid = true) :
    ((plan.layout config).rooms.flatMap fun room => (plan.layout config).belongings room.id) =
      (plan.layout config).furnishings := by
  have hall := furnishings_layout_eq plan config
  rw [Layout.hosts_eq,List.flatMap_assoc] at hall
  have hd : ((plan.layout config).rooms.map fun room => some room.id).Nodup := by
    have hids := (nodup_ids_layout plan config).map (Option.some_injective String)
    rwa [List.map_map] at hids
  conv_rhs => rw [hall]
  refine List.flatMap_congr fun room hroom => ?_
  rw [Layout.belongings,hall]
  refine filter_flatMap_of_key hd (fun room hroom f hf => ?_) hroom
  obtain ⟨host,hhost,hf⟩ := List.mem_flatMap.mp hf
  rw [host_of_mem_placeFurnishings hf,owner?_text hvalid (List.mem_flatMap.mpr ⟨room,hroom,hhost⟩),
    Layout.owner_of_mem_hostsIn hhost]

end Blueprint
