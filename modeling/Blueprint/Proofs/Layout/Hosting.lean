import Blueprint.Proofs.Layout.Origin
import Blueprint.Proofs.Layout.Belongings
import Blueprint.Proofs.Layout.Reordering
import Blueprint.Proofs.Plan.Validity
import Mathlib.Data.List.Find

/-!
The hosts of openings. A host name may stand for several rooms and parts of a plan; an opening is
cut into the first of them that has its place. Where the very first has none, an opening that is cut
into a later one is in a wall of something that its name does not designate.
-/

namespace Blueprint

/-! ### Look-ups among some of many keys -/

/-- A list in the order of some keys is what looking them up in turn gives. -/
theorem flatMap_find?_of_sublist {β κ : Type} [BEq κ] [LawfulBEq κ] {key : β → κ} {l : List β}
    {keys : List κ} (hd : keys.Nodup) (hsub : (l.map key).Sublist keys) :
    (keys.flatMap fun k => (l.find? (key · == k)).toList) = l := by
  induction keys generalizing l with
  | nil => exact (List.map_eq_nil_iff.mp (List.sublist_nil.mp hsub)).symm
  | cons k keys ih =>
    rw [List.nodup_cons] at hd
    rw [List.flatMap_cons]
    rcases List.sublist_cons_iff.mp hsub with hsub | ⟨r,hr,hsub⟩
    · -- no item has the first key, so looking it up finds nothing
      have hnone : l.find? (key · == k) = none := by
        rw [List.find?_eq_none]
        intro b hb hkey
        exact hd.1 (eq_of_beq hkey ▸ hsub.subset (List.mem_map_of_mem hb))
      rw [hnone,ih hd.2 hsub]
      rfl
    · obtain ⟨b,l,rfl,rfl,rfl⟩ := List.map_eq_cons_iff.mp hr
      have hrest : (keys.flatMap fun k => ((b :: l).find? (key · == k)).toList) =
          keys.flatMap fun k => (l.find? (key · == k)).toList := by
        refine List.flatMap_congr fun k' hk' => ?_
        have hne : (key b == k') = false := beq_false_of_ne fun he => hd.1 (he ▸ hk')
        rw [List.find?_cons,hne]
      rw [hrest,ih hd.2 hsub]
      simp

/-- The first item whose key passes a test, found by looking up every such key in turn. -/
theorem find?_eq_findSome?_filter {β κ : Type} [BEq κ] [LawfulBEq κ] {key : β → κ} {l : List β}
    {keys : List κ} (hd : keys.Nodup) (hsub : (l.map key).Sublist keys) (test : κ → Bool)
    {look : κ → Option β} (hlook : ∀ k ∈ keys, look k = l.find? (key · == k)) :
    l.find? (fun b => test (key b)) = (keys.filter test).findSome? look := by
  have htest (k : κ) (hk : k ∈ keys) :
      ((l.find? (key · == k)).toList.find? fun b => test (key b)) =
        if test k = true then look k else none := by
    rw [hlook k hk]
    cases hb : l.find? (key · == k) with
    | none => simp
    | some b =>
      obtain rfl : key b = k := by simpa using List.find?_some hb
      by_cases ht : test (key b) = true <;> simp [ht]
  conv_lhs => rw [← flatMap_find?_of_sublist hd hsub,List.find?_flatMap]
  rw [← List.head?_filterMap,← List.head?_filterMap,List.filterMap_filter]
  exact congrArg List.head? (List.filterMap_congr htest)

/-- What is made of the items of a list, if it keeps their keys, has them in the same order. -/
theorem map_filterMap_sublist {β γ κ : Type} {key : β → κ} {key' : γ → κ} {f : β → Option γ}
    {l : List β} (hkey : ∀ b c, f b = some c → key' c = key b) :
    ((l.filterMap f).map key').Sublist (l.map key) := by
  induction l with
  | nil => exact List.Sublist.slnil
  | cons a l ih =>
    cases ha : f a with
    | none => simpa [ha] using ih.cons (key a)
    | some c => simpa [ha,hkey a c ha] using ih

/-- It is found by these keys. -/
theorem find?_filterMap_key {β γ κ : Type} [BEq κ] [LawfulBEq κ] {key : β → κ} {key' : γ → κ}
    {f : β → Option γ} {l : List β} (hd : (l.map key).Nodup)
    (hkey : ∀ b c, f b = some c → key' c = key b) {b : β} (hb : b ∈ l) :
    (l.filterMap f).find? (key' · == key b) = f b := by
  refine Option.ext fun c => ?_
  rw [find?_key_eq_some_iff (hd.sublist (map_filterMap_sublist hkey)),List.mem_filterMap]
  constructor
  · rintro ⟨⟨a,ha,hc⟩,hac⟩
    obtain rfl := List.inj_on_of_nodup_map hd ha hb ((hkey a c hc).symm.trans hac)
    exact hc
  · intro hc
    exact ⟨⟨b,hb,hc⟩,hkey b c hc⟩

/-- The first success is that of the first item unless that one fails and a later one does not. -/
theorem findSome?_eq_bind_head?_iff {β γ : Type} {f : β → Option γ} {l : List β} :
    l.findSome? f = l.head?.bind f ↔ (l.head?.bind f).isSome ∨ ∀ b ∈ l, f b = none := by
  cases l with
  | nil => simp
  | cons b l => cases hb : f b <;> simp [hb]

/-! ### What a name may stand for -/

/-- A room or part of a plan, whether it has its place or not. -/
inductive Named where
  | room (id : String)
  | part (key : PartKey)
  deriving DecidableEq, Repr

def Named.text : Named → String
  | room id => id
  | part key => key.text

variable {α : Type}

/-- The ids of the rooms of a plan, by first declarations. -/
def Plan.roomIds (plan : Plan α) : List String := (Plan.firstRooms plan.rooms).map (·.id)

/-- The parts of a plan, by first declarations. -/
def Plan.partKeys (plan : Plan α) : List PartKey :=
  (Plan.firstRooms plan.rooms).flatMap fun room =>
    (firstBy (·.id) [] room.parts).map fun part => ⟨room.id,part.id⟩

/-- What a host name may stand for, the foremost first: a part by its full name, a room, and the
parts that have this id in their rooms. -/
def Plan.named (plan : Plan α) (name : String) : List Named :=
  (plan.partKeys.filter (·.text == name)).map .part ++
    ((plan.roomIds.filter (· == name)).map .room ++
      (plan.partKeys.filter (·.part == name)).map .part)

/-- What a host name designates. -/
def Plan.designated? (plan : Plan α) (name : String) : Option Named := (plan.named name).head?

/-- The rectangle of a room or part that has its place. -/
def Layout.rect? (layout : Layout α) : Named → Option (Rect α)
  | .room id => (layout.rooms.find? (·.id == id)).map (·.rect)
  | .part key => (layout.parts.find? (·.key == key)).map (·.rect)

theorem Plan.nodup_roomIds (plan : Plan α) : plan.roomIds.Nodup := nodup_map_firstBy

theorem Plan.nodup_partKeys (plan : Plan α) : plan.partKeys.Nodup := by
  refine nodup_flatMap_firstRooms PartKey.room (fun room => ?_) fun room key hkey => ?_
  · have hd : ((firstBy (·.id) [] room.parts).map (·.id)).Nodup := nodup_map_firstBy
    have hinj : Function.Injective (PartKey.mk room.id) := fun _ _ h => (PartKey.mk.inj h).2
    simpa [Function.comp_def] using hd.map hinj
  · obtain ⟨part,_,rfl⟩ := List.mem_map.mp hkey
    rfl

/-! ### Placed rooms and parts -/

section Placed

variable [Scalar α] (config : LayoutConfig α) (plan : Plan α)

theorem ids_placePlan_sublist :
    ((placePlan config plan.rooms).rooms.map (·.id)).Sublist plan.roomIds := by
  have hids : plan.roomIds = (Plan.firstRooms plan.rooms).flatMap fun room => [room.id] :=
    List.map_eq_flatMap
  rw [placePlan_eq,placeRooms_eq,List.map_flatMap,flatMap_placements,hids]
  refine List.Sublist.flatMap_right _ fun room _ => ?_
  cases (pin .rooms config.maxPasses id (plan.rooms.map Room.toBlock)).rects.lookup room.id with
  | none => exact List.nil_sublist _
  | some rect => simp [placeRoom_eq]

theorem keys_placePlan_sublist :
    ((placePlan config plan.rooms).parts.map (·.key)).Sublist plan.partKeys := by
  rw [placePlan_eq,placeRooms_eq,List.map_flatMap,flatMap_placements,Plan.partKeys]
  refine List.Sublist.flatMap_right _ fun room _ => ?_
  cases (pin .rooms config.maxPasses id (plan.rooms.map Room.toBlock)).rects.lookup room.id with
  | none => exact List.nil_sublist _
  | some rect =>
    have hids : (room.pinParts rect config.maxPasses).rects.map (·.1) |>.Sublist
        ((firstBy (·.id) [] room.parts).map (·.id)) := by
      rw [Room.pinParts,Pinning.keys_pin,Pinning.firstDeclared_eq_firstBy,firstBy_map,Pinning.ids,
        List.map_map]
      exact List.filter_sublist
    simpa [placeRoom_eq,Function.comp_def] using hids.map (PartKey.mk room.id)

variable {config plan}

/-- A placed part belongs to a room of the plan. -/
theorem exists_room_of_mem_parts {part : PlacedPart α}
    (h : part ∈ (placePlan config plan.rooms).parts) :
    ∃ room ∈ plan.rooms, room.id = part.key.room := by
  have hkey := (keys_placePlan_sublist config plan).subset (List.mem_map_of_mem h)
  obtain ⟨room,hroom,hkey⟩ := List.mem_flatMap.mp hkey
  obtain ⟨_,_,hkey⟩ := List.mem_map.mp hkey
  exact ⟨room,List.mem_of_find?_eq_some (Plan.mem_firstRooms_iff.mp hroom),by rw [← hkey]⟩

end Placed

/-! ### Names of parts -/

theorem PartKey.toList_text (key : PartKey) :
    key.text.toList = key.room.toList ++ '.' :: key.part.toList := by
  simp [PartKey.text]

theorem PartKey.ne_text {id : String} (h : '.' ∉ id.toList) (key : PartKey) : id ≠ key.text := by
  rintro rfl
  exact h (by simp [PartKey.toList_text])

/-- A full name is cut into the room and the part. -/
theorem PartKey.text_eq_iff {key : PartKey} (h : '.' ∉ key.room.toList) {name : String} :
    key.text = name ↔
      Text.splitFirst? '.' name.toList = some (key.room.toList,key.part.toList) := by
  constructor
  · rintro rfl
    rw [PartKey.toList_text,Text.splitFirst?_append h]
  · intro hsplit
    rw [← String.toList_inj,PartKey.toList_text,(Text.splitFirst?_eq_some hsplit).1]

theorem PartKey.text_inj {key key' : PartKey} (h : '.' ∉ key.room.toList)
    (h' : '.' ∉ key'.room.toList) : key.text = key'.text ↔ key = key' := by
  constructor
  · intro htext
    have hcut := (PartKey.text_eq_iff h').mp htext.symm
    rw [(PartKey.text_eq_iff h).mp rfl,Option.some.injEq,Prod.mk.injEq,String.toList_inj,
      String.toList_inj] at hcut
    obtain ⟨room,part⟩ := key
    obtain ⟨room',part'⟩ := key'
    obtain ⟨rfl,rfl⟩ := hcut
    rfl
  · rintro rfl
    rfl

theorem Placement.qualified?_eq_find? {p : Placement α}
    (h : ∀ part ∈ p.parts, '.' ∉ part.key.room.toList) (name : String) :
    p.qualified? name = p.parts.find? fun part => part.key.text == name := by
  rw [qualified?]
  cases hsplit : Text.splitFirst? '.' name.toList with
  | none =>
    refine (List.find?_eq_none.mpr fun part hpart htext => ?_).symm
    rw [beq_iff_eq,PartKey.text_eq_iff (h part hpart),hsplit] at htext
    cases htext
  | some cut =>
    obtain ⟨room,part⟩ := cut
    refine List.find?_congr fun placed hplaced => ?_
    rw [Bool.eq_iff_iff,beq_iff_eq,beq_iff_eq,PartKey.text_eq_iff (h placed hplaced),hsplit]
    constructor
    · intro hkey
      simp [hkey]
    · intro hcut
      obtain ⟨rfl,rfl⟩ := Prod.mk.inj (Option.some.inj hcut)
      simp

/-! ### The host of an opening -/

section Host

variable [Scalar α] {config : LayoutConfig α} {plan : Plan α}

/-- A room is found by its id if it is among the rooms of the plan that have their place. -/
theorem map_room?_placePlan (name : String) :
    ((placePlan config plan.rooms).room? name).map (fun room => (room.id,room.rect)) =
      (plan.roomIds.filter (· == name)).findSome? fun id =>
        ((plan.layout config).rect? (.room id)).map (id,·) := by
  let p := placePlan config plan.rooms
  have hlook : ∀ id ∈ plan.roomIds, p.room? id = p.rooms.find? (·.id == id) := fun _ _ => rfl
  rw [Placement.room?,find?_eq_findSome?_filter plan.nodup_roomIds
    (ids_placePlan_sublist config plan) (· == name) hlook,List.map_findSome?]
  refine congrArg (List.findSome? · _) (funext fun id => ?_)
  change (p.room? id).map _ = ((p.room? id).map _).map _
  cases hroom : p.room? id with
  | none => rfl
  | some room => simpa using List.find?_some hroom

/-- A part is found by a test of its key if a part of the plan that has its place passes. -/
theorem map_find?_parts_placePlan (test : PartKey → Bool) :
    ((placePlan config plan.rooms).parts.find? fun part => test part.key).map
        (fun part => (part.key.text,part.rect)) =
      (plan.partKeys.filter test).findSome? fun key =>
        ((plan.layout config).rect? (.part key)).map (key.text,·) := by
  let p := placePlan config plan.rooms
  have hlook : ∀ key ∈ plan.partKeys, p.part? key = p.parts.find? (·.key == key) := fun _ _ => rfl
  rw [find?_eq_findSome?_filter plan.nodup_partKeys (keys_placePlan_sublist config plan) test hlook,
    List.map_findSome?]
  refine congrArg (List.findSome? · _) (funext fun key => ?_)
  change (p.part? key).map _ = ((p.part? key).map _).map _
  cases hpart : p.part? key with
  | none => rfl
  | some part =>
    obtain rfl : part.key = key := by simpa using List.find?_some hpart
    rfl

/-- In a valid plan a host name finds the first of what it may stand for that has its place. -/
theorem host?_placePlan (hvalid : plan.isValid = true) (name : String) :
    (placePlan config plan.rooms).host? name = (plan.named name).findSome? fun host =>
      ((plan.layout config).rect? host).map (host.text,·) := by
  have hdots : ∀ part ∈ (placePlan config plan.rooms).parts, '.' ∉ part.key.room.toList := by
    intro part hpart
    obtain ⟨room,hroom,hid⟩ := exists_room_of_mem_parts hpart
    exact hid ▸ (Plan.plainId_room hvalid hroom).noDot
  rw [Placement.host?_eq_hosting?,Placement.hosting?,Placement.qualified?_eq_find? hdots,
    Option.map_or,Option.map_or,Plan.named,List.findSome?_append,List.findSome?_append,
    List.findSome?_map,List.findSome?_map,List.findSome?_map]
  simp only [Option.map_map,Function.comp_def]
  exact congrArg₂ Option.or (map_find?_parts_placePlan (·.text == name))
    (congrArg₂ Option.or (map_room?_placePlan name)
      (map_find?_parts_placePlan (·.part == name)))

end Host

/-! ### The openings of a layout -/

/-- What numbers an opening. -/
def Opening.slot (o : Opening α) : OpeningKind × Nat := (o.kind,o.index)

def PlacedOpening.slot (o : PlacedOpening α) : OpeningKind × Nat := (o.kind,o.index)

/-- The placed opening of a number. -/
def Layout.opening? (layout : Layout α) (slot : OpeningKind × Nat) : Option (PlacedOpening α) :=
  layout.openings.find? (·.slot == slot)

/-- Doors and windows are numbered apart, each from zero. -/
theorem Plan.slots_eq (plan : Plan α) : plan.openings.map Opening.slot =
    (List.range plan.doors.length).map (OpeningKind.door,·) ++
      (List.range plan.windows.length).map (OpeningKind.window,·) := by
  rw [openings,List.map_append]
  congr 1 <;> exact List.ext_getElem (by simp) fun i _ _ => by simp [Opening.slot]

/-- Every opening of a plan has a number of its own. -/
theorem Plan.nodup_slots (plan : Plan α) : (plan.openings.map Opening.slot).Nodup := by
  rw [slots_eq,List.nodup_append]
  refine ⟨List.nodup_range.map fun _ _ h => (Prod.mk.inj h).2,
    List.nodup_range.map fun _ _ h => (Prod.mk.inj h).2,?_⟩
  intro s hs t ht
  obtain ⟨_,_,rfl⟩ := List.mem_map.mp hs
  obtain ⟨_,_,rfl⟩ := List.mem_map.mp ht
  simp

variable [Scalar α] (config : LayoutConfig α)

/-- An opening in a wall of a host. -/
def Opening.placedOn (o : Opening α) (wall : Wall) (host : String) (rect : Rect α) :
    PlacedOpening α :=
  let depth := o.depth.getD config.openingDepth
  let place := placeOnWall rect wall o.offset o.width
  { kind := o.kind
    index := o.index
    host
    wall
    offset := o.offset
    width := o.width
    depth
    position := place.position
    rotation := place.rotation
    wallLength := rect.side wall
    door := match o.style with
      | .door swing kind => some (swing,kind)
      | .window => none
    drawing := drawOpening place wall o.width depth o.style }

variable {config}

theorem toOption_placeOpening {p : Placement α} {o : Opening α} {reference : WallReference}
    (h : WallReference.parse o.room = .ok reference) :
    (placeOpening config p o).toOption = (p.host? reference.host).map fun (host,rect) =>
      o.placedOn config reference.wall host rect := by
  unfold placeOpening
  rw [h]
  dsimp only
  cases p.host? reference.host <;> rfl

theorem slot_of_placeOpening {p : Placement α} {o : Opening α} {placed : PlacedOpening α}
    (h : (placeOpening config p o).toOption = some placed) : placed.slot = o.slot := by
  cases hparse : WallReference.parse o.room with
  | error e =>
    unfold placeOpening at h
    rw [hparse] at h
    cases h
  | ok reference =>
    rw [toOption_placeOpening hparse] at h
    obtain ⟨_,_,rfl⟩ := Option.map_eq_some_iff.mp h
    rfl

variable {plan : Plan α} {o : Opening α}

/-- The layout holds what comes of placing the openings of its plan. -/
theorem openings_layout_eq (plan : Plan α) (config : LayoutConfig α) :
    (plan.layout config).openings = plan.openings.filterMap fun o =>
      (placeOpening config (placePlan config plan.rooms) o).toOption := by
  simp only [Plan.layout,List.filterMap_map]
  refine List.filterMap_congr fun o _ => ?_
  cases h : placeOpening config (placePlan config plan.rooms) o <;> simp [h,Except.toOption]

theorem opening?_layout (ho : o ∈ plan.openings) : (plan.layout config).opening? o.slot =
    (placeOpening config (placePlan config plan.rooms) o).toOption := by
  rw [Layout.opening?,openings_layout_eq]
  exact find?_filterMap_key plan.nodup_slots (fun _ _ => slot_of_placeOpening) ho

/-- What becomes of an opening of a plan. -/
structure Plan.OpeningSettled (plan : Plan α) (config : LayoutConfig α) (o : Opening α) :
    Prop where
  unreadable : ∀ e, WallReference.parse o.room = .error e →
    (plan.layout config).opening? o.slot = none
  /-- It is cut into the first of what its host name may stand for that has its place. -/
  placed : ∀ reference, WallReference.parse o.room = .ok reference →
    (plan.layout config).opening? o.slot = (plan.named reference.host).findSome? fun host =>
      ((plan.layout config).rect? host).map (o.placedOn config reference.wall host.text)
  /-- It is in the designated host, or nowhere without that, unless something else is found. -/
  designated : ∀ reference, WallReference.parse o.room = .ok reference →
    ((plan.layout config).opening? o.slot = (plan.designated? reference.host).bind (fun host =>
      ((plan.layout config).rect? host).map (o.placedOn config reference.wall host.text)) ↔
        ((plan.designated? reference.host).bind (plan.layout config).rect?).isSome ∨
          ∀ host ∈ plan.named reference.host, (plan.layout config).rect? host = none)
  told : (plan.layout config).opening? o.slot = none → ∃ reason,
    .wallReference (o.kind.ordinal o.index) o.room reason ∈ (plan.layout config).failures

/-- What becomes of the openings of a valid plan. -/
theorem openings_settled (plan : Plan α) (config : LayoutConfig α) (hvalid : plan.isValid = true) :
    ∀ o ∈ plan.openings, plan.OpeningSettled config o := by
  intro o ho
  have hplaced (reference : WallReference) (hparse : WallReference.parse o.room = .ok reference) :
      (plan.layout config).opening? o.slot = (plan.named reference.host).findSome? fun host =>
        ((plan.layout config).rect? host).map (o.placedOn config reference.wall host.text) := by
    rw [opening?_layout ho,toOption_placeOpening hparse,host?_placePlan hvalid,List.map_findSome?]
    refine congrArg (List.findSome? · _) (funext fun host => ?_)
    simp [Function.comp_def]
  refine ⟨fun e hparse => ?_,hplaced,fun reference hparse => ?_,fun hnone => ?_⟩
  · rw [opening?_layout ho]
    unfold placeOpening
    rw [hparse]
    rfl
  · rw [hplaced reference hparse,Plan.designated?,findSome?_eq_bind_head?_iff]
    simp [Option.isSome_bind,Option.any_eq_true]
  · rw [opening?_layout ho] at hnone
    cases h : placeOpening config (placePlan config plan.rooms) o with
    | ok placed => simp [h,Except.toOption] at hnone
    | error f =>
      obtain ⟨reason,rfl⟩ := wallReference_of_placeOpening h
      refine ⟨reason,List.mem_append_right _ (List.mem_filterMap.mpr ⟨.error _,?_,rfl⟩)⟩
      exact List.mem_map.mpr ⟨o,ho,h⟩

/-- A room that is attached to nothing declared, a part of the same id, and a door in a wall of the
room. -/
def sharedName : Plan Rat where
  rooms := [unitRoom "bay" "ghost" [],unitRoom "hall" originName [unitPart "bay" parentName]]
  doors := [⟨⟨"bay:top",0,1,none⟩,.inwardsRight,.normal⟩]
  windows := []

theorem openings_settled_sharedName :
    sharedName.isValid = true ∧ sharedName.openings.map (·.room) = ["bay:top"] ∧
    sharedName.named "bay" = [.room "bay",.part ⟨"hall","bay"⟩] ∧
    ∀ o ∈ sharedName.openings, sharedName.OpeningSettled .standard o :=
  ⟨by decide +kernel,by decide +kernel,by decide +kernel,
    openings_settled sharedName .standard (by decide +kernel)⟩

/-- The designated host of the door has no place. The door is cut into the part, and nothing is told
of it. -/
theorem openings_misplaced_sharedName :
    sharedName.isValid = true ∧ WallReference.parse "bay:top" = .ok ⟨"bay",.top⟩ ∧
    sharedName.designated? "bay" = some (.room "bay") ∧
    (sharedName.layout .standard).rect? (.room "bay") = none ∧
    (sharedName.layout .standard).openings.map (fun o => (o.slot,o.host,o.wall)) =
      [((.door,0),"hall.bay",.top)] ∧
    (sharedName.layout .standard).failures = [.missingTarget "bay" "ghost"] := by
  decide +kernel

end Blueprint
