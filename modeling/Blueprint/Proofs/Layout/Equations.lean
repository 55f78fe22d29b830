import Blueprint.Proofs.Geometry.Exact
import Blueprint.Proofs.Layout.Placement

/-!
The attachment equations over exact coordinates. A rectangle sits on a point when its anchor corner
is that point moved by its offset; the rectangles of a layout sit where they are attached, and they
are the only ones that do.
-/

namespace Blueprint

/-! ### One rectangle -/

/-- The rectangle has the size of the block, and its anchor corner is the point moved by the
block's offset. -/
structure Block.Sits (b : Block Rat) (p : Point Rat) (rect : Rect Rat) : Prop where
  corner : rect.corner b.anchor = p.translate b.offset.1 b.offset.2
  width : rect.width = b.width
  height : rect.height = b.depth

/-- The same of a furnishing, whose point is counted from a corner of its host. -/
structure Furnishing.Sits (f : Furnishing Rat) (host rect : Rect Rat) : Prop where
  corner : rect.corner f.anchor = (host.corner f.roomAnchor).translate f.x f.y
  size : (rect.width,rect.height) = f.size

theorem corner_zero (c : Corner) : (Rect.zero : Rect Rat).corner c = ⟨0,0⟩ := by
  cases c <;> simp [Rect.corner,Rect.zero,Rect.topLeft,Corner.displacement,Point.translate]

/-- A corner and a size determine a rectangle. -/
theorem Rect.ext_corner {r s : Rect Rat} (c : Corner) (hc : r.corner c = s.corner c)
    (hw : r.width = s.width) (hh : r.height = s.height) : r = s := by
  cases r
  cases s
  simp only at hw hh
  subst hw hh
  cases c <;>
    simpa [Rect.corner,Rect.topLeft,Corner.displacement,Point.translate] using hc

theorem Block.sits_placeAt (b : Block Rat) (p : Point Rat) : b.Sits p (Pinning.placeAt b p) where
  corner := by
    cases h : b.anchor <;>
      simp only [Pinning.placeAt,Rect.corner,Rect.topLeft,Corner.displacement,Point.translate,h,
        Scalar.zero_rat,Point.mk.injEq] <;>
      constructor <;> linarith
  width := rfl
  height := rfl

theorem Block.sits_iff {b : Block Rat} {p : Point Rat} {rect : Rect Rat} :
    b.Sits p rect ↔ rect = Pinning.placeAt b p := by
  have hplace := b.sits_placeAt p
  constructor
  · intro h
    exact Rect.ext_corner b.anchor (h.corner.trans hplace.corner.symm)
      (h.width.trans hplace.width.symm) (h.height.trans hplace.height.symm)
  · rintro rfl
    exact hplace

theorem Furnishing.sits_rectIn (f : Furnishing Rat) (host : Rect Rat) :
    f.Sits host (f.rectIn host) where
  corner := by
    cases h : f.anchor <;>
      simp only [Furnishing.rectIn,Rect.corner,Rect.topLeft,Corner.displacement,Point.translate,h,
        Scalar.zero_rat,Point.mk.injEq] <;>
      constructor <;> linarith
  size := rfl

/-! ### The equations of a plan -/

/-- The attachment equations of a plan, for rectangles given to some of its rooms and parts. -/
structure Equations (plan : Plan Rat) (rooms : List (String × Rect Rat))
    (parts : List (PartKey × Rect Rat)) : Prop where
  /-- A room sits on the origin or on a corner of a room that has a rectangle. -/
  room : ∀ p ∈ rooms, ∃ room, plan.room? p.1 = some room ∧ ∃ point : Point Rat,
    ((room.attachTo.target = originName ∧ point = ⟨0,0⟩) ∨
      (room.attachTo.target ≠ originName ∧ ∃ target, (room.attachTo.target,target) ∈ rooms ∧
        point = target.corner room.attachTo.corner)) ∧ room.toBlock.Sits point p.2
  /-- A part sits on a corner of its own room or of another part of that room. -/
  part : ∀ p ∈ parts, ∃ part, plan.part? p.1 = some part ∧ ∃ target : Rect Rat,
    ((part.attachTo.target = parentName ∧ (p.1.room,target) ∈ rooms) ∨
      (part.attachTo.target ≠ parentName ∧ (⟨p.1.room,part.attachTo.target⟩,target) ∈ parts)) ∧
    part.toBlock.Sits (target.corner part.attachTo.corner) p.2

open Pinning

variable {plan : Plan Rat} {rooms : List (String × Rect Rat)} {parts : List (PartKey × Rect Rat)}

/-- The equations of the rooms say that the rooms solve their attachments. -/
theorem Equations.solves_rooms (h : Equations plan rooms parts) :
    Solves .rooms (plan.rooms.map Room.toBlock) fun id rect => (id,rect) ∈ rooms := by
  intro id rect hmem
  obtain ⟨room,hroom,point,hpoint,hsits⟩ := h.room _ hmem
  refine ⟨room.toBlock,by simp [declared?_rooms,hroom],?_⟩
  rcases hpoint with ⟨horigin,rfl⟩ | ⟨hne,target,htarget,rfl⟩
  · refine ⟨Rect.zero,Or.inl ⟨horigin,rfl⟩,?_⟩
    rw [corner_zero]
    exact Block.sits_iff.mp hsits
  · exact ⟨target,Or.inr ⟨hne,htarget⟩,Block.sits_iff.mp hsits⟩

/-- The equations of the parts of a room say that they solve their attachments to that room. -/
theorem Equations.solves_parts (h : Equations plan rooms parts) {name : String} {room : Room Rat}
    (hroom : plan.room? name = some room) {parent : Rect Rat}
    (hparent : ∀ rect, (name,rect) ∈ rooms → rect = parent) :
    Solves (.parts parent) (room.parts.map Part.toBlock)
      fun id rect => (⟨name,id⟩,rect) ∈ parts := by
  intro id rect hmem
  obtain ⟨part,hpart,target,htarget,hsits⟩ := h.part _ hmem
  refine ⟨part.toBlock,by simp [declared?_parts hroom,hpart],target,?_,Block.sits_iff.mp hsits⟩
  rcases htarget with ⟨hself,hin⟩ | hother
  · exact Or.inl ⟨hself,hparent target hin⟩
  · exact Or.inr hother

theorem equations_nil : Equations plan [] [] := ⟨by simp,by simp⟩

variable {maxPasses : Nat}

/-- The rectangles of a placement solve the equations. -/
theorem equations_placeRooms : Equations plan (placeRooms maxPasses plan.rooms).roomRects
    (placeRooms maxPasses plan.rooms).partRects where
  room := by
    rintro ⟨id,rect⟩ hmem
    obtain ⟨b,hb,target,hstands,hrect⟩ := solves_pin _ _ (mem_roomRects_placeRooms.mp hmem)
    rw [declared?_rooms] at hb
    obtain ⟨room,hroom,rfl⟩ := Option.map_eq_some_iff.mp hb
    refine ⟨room,hroom,target.corner room.attachTo.corner,?_,Block.sits_iff.mpr hrect⟩
    rcases hstands with ⟨horigin,rfl⟩ | ⟨hne,htarget⟩
    · exact Or.inl ⟨horigin,corner_zero _⟩
    · exact Or.inr ⟨hne,target,mem_roomRects_placeRooms.mpr htarget,rfl⟩
  part := by
    rintro ⟨key,rect⟩ hmem
    obtain ⟨room,parent,hroom,hparent,hpart⟩ := mem_partRects_placeRooms.mp hmem
    obtain ⟨b,hb,target,hstands,hrect⟩ := solves_pin _ _ hpart
    rw [declared?_parts hroom] at hb
    obtain ⟨part,hpart,rfl⟩ := Option.map_eq_some_iff.mp hb
    refine ⟨part,hpart,target,?_,Block.sits_iff.mpr hrect⟩
    rcases hstands with ⟨hself,rfl⟩ | ⟨hne,htarget⟩
    · exact Or.inl ⟨hself,hparent⟩
    · exact Or.inr ⟨hne,mem_partRects_placeRooms.mpr ⟨room,parent,hroom,hparent,htarget⟩⟩

theorem exists_mem_of_keys {κ β : Type} {l m : List (κ × β)}
    (hkeys : m.map (·.1) = l.map (·.1)) {k : κ} {b : β} (h : (k,b) ∈ m) : ∃ c, (k,c) ∈ l := by
  have hk : k ∈ l.map (·.1) := hkeys ▸ List.mem_map.mpr ⟨_,h,rfl⟩
  obtain ⟨⟨_,c⟩,hc,rfl⟩ := List.mem_map.mp hk
  exact ⟨c,hc⟩

/-- No other rectangles for the same rooms and parts solve the equations. -/
theorem Equations.eq_placeRooms (h : Equations plan rooms parts)
    (hrooms : rooms.map (·.1) = (placeRooms maxPasses plan.rooms).roomRects.map (·.1))
    (hparts : parts.map (·.1) = (placeRooms maxPasses plan.rooms).partRects.map (·.1)) :
    rooms = (placeRooms maxPasses plan.rooms).roomRects ∧
      parts = (placeRooms maxPasses plan.rooms).partRects := by
  have hroom : ∀ p ∈ rooms, p ∈ (placeRooms maxPasses plan.rooms).roomRects := by
    rintro ⟨id,rect⟩ hmem
    refine mem_roomRects_placeRooms.mpr (h.solves_rooms.mem_pin ?_ hmem)
    intro id rect hmem
    obtain ⟨_,hin⟩ := exists_mem_of_keys hrooms hmem
    exact List.mem_map.mpr ⟨_,mem_roomRects_placeRooms.mp hin,rfl⟩
  -- the rooms agree already, so the parts of a room are attached to the same rectangle
  have hpart : ∀ p ∈ parts, p ∈ (placeRooms maxPasses plan.rooms).partRects := by
    rintro ⟨key,rect⟩ hmem
    obtain ⟨_,hin⟩ := exists_mem_of_keys hparts hmem
    obtain ⟨room,parent,hroom?,hparent,hpart⟩ := mem_partRects_placeRooms.mp hin
    have hunique (parent' : Rect Rat)
        (hin : (key.room,parent') ∈ (placeRooms maxPasses plan.rooms).roomRects) :
        parent' = parent :=
      congrArg Prod.snd (List.inj_on_of_nodup_map nodup_roomRects_placeRooms hin hparent rfl)
    have hsolves := h.solves_parts hroom? fun r hr => hunique r (hroom _ hr)
    refine mem_partRects_placeRooms.mpr ⟨room,parent,hroom?,hparent,hsolves.mem_pin ?_ hmem⟩
    intro id rect hmem
    obtain ⟨_,hin⟩ := exists_mem_of_keys hparts hmem
    obtain ⟨room',parent',hroom?',hparent',hpart'⟩ := mem_partRects_placeRooms.mp hin
    obtain rfl : room' = room := Option.some.inj (hroom?'.symm.trans hroom?)
    obtain rfl := hunique parent' hparent'
    exact List.mem_map.mpr ⟨_,hpart',rfl⟩
  exact ⟨eq_of_subset_of_keys nodup_roomRects_placeRooms hrooms hroom,
    eq_of_subset_of_keys nodup_partRects_placeRooms hparts hpart⟩

/-! ### Furnishings -/

theorem Placement.mem_roomRects_of_room? {p : Placement Rat} {id : String} {placed : PlacedRoom Rat}
    (h : p.room? id = some placed) : (id,placed.rect) ∈ p.roomRects := by
  have hid : placed.id = id := by simpa using List.find?_some h
  exact List.mem_map.mpr ⟨placed,List.mem_of_find?_eq_some h,by rw [hid]⟩

theorem Placement.mem_partRects_of_part? {p : Placement Rat} {key : PartKey}
    {placed : PlacedPart Rat} (h : p.part? key = some placed) :
    (key,placed.rect) ∈ p.partRects := by
  have hkey : placed.key = key := by simpa using List.find?_some h
  exact List.mem_map.mpr ⟨placed,List.mem_of_find?_eq_some h,by rw [hkey]⟩

/-- A furnishing is declared for a room or part that has a rectangle, under its number there. -/
def Hosted (plan : Plan Rat) (rooms : List (String × Rect Rat)) (parts : List (PartKey × Rect Rat))
    (placed : PlacedFurnishing Rat) (f : Furnishing Rat) (host : Rect Rat) : Prop :=
  (∃ room, plan.room? placed.host = some room ∧ room.furnishings[placed.index]? = some f ∧
    (placed.host,host) ∈ rooms) ∨
  (∃ key part, key.text = placed.host ∧ plan.part? key = some part ∧
    part.furnishings[placed.index]? = some f ∧ (key,host) ∈ parts)

theorem mem_placeFurnishings {name : String} {host : Rect Rat} {fs : List (Furnishing Rat)}
    {placed : PlacedFurnishing Rat} (h : placed ∈ placeFurnishings name host fs) :
    placed.host = name ∧ ∃ f, fs[placed.index]? = some f ∧ placed.rect = f.rectIn host := by
  obtain ⟨i,hi,rfl⟩ := List.mem_mapIdx.mp h
  exact ⟨rfl,fs[i],List.getElem?_eq_getElem hi,rfl⟩

/-- Every placed furnishing sits in its host. -/
theorem sits_of_mem_furnishingsOf {p : Placement Rat} {room : Room Rat}
    (hroom : plan.room? room.id = some room) {placed : PlacedFurnishing Rat}
    (h : placed ∈ p.furnishingsOf room) :
    ∃ f host, Hosted plan p.roomRects p.partRects placed f host ∧ f.Sits host placed.rect := by
  unfold Placement.furnishingsOf at h
  cases hplaced : p.room? room.id with
  | none => simp [hplaced] at h
  | some host =>
    simp only [hplaced,List.mem_append,List.mem_flatMap] at h
    rcases h with h | ⟨part,hpart,h⟩
    · obtain ⟨hhost,f,hf,hrect⟩ := mem_placeFurnishings h
      refine ⟨f,host.rect,Or.inl ⟨room,?_,hf,?_⟩,hrect ▸ f.sits_rectIn host.rect⟩
      · rw [hhost,hroom]
      · rw [hhost]
        exact Placement.mem_roomRects_of_room? hplaced
    · cases hkey : p.part? ⟨room.id,part.id⟩ with
      | none => simp [hkey] at h
      | some host =>
        simp only [hkey] at h
        obtain ⟨hhost,f,hf,hrect⟩ := mem_placeFurnishings h
        have hpart? : plan.part? ⟨room.id,part.id⟩ = some part := by
          simpa [Plan.part?,hroom] using mem_firstBy_nil_iff.mp hpart
        exact ⟨f,host.rect,Or.inr ⟨_,part,hhost.symm,hpart?,hf,
          Placement.mem_partRects_of_part? hkey⟩,hrect ▸ f.sits_rectIn host.rect⟩

/-! ### The layout -/

/-- The rectangles of the placed rooms, by id. -/
def Layout.roomRects (layout : Layout Rat) : List (String × Rect Rat) :=
  layout.rooms.map fun room => (room.id,room.rect)

/-- The rectangles of the placed parts, by key. -/
def Layout.partRects (layout : Layout Rat) : List (PartKey × Rect Rat) :=
  layout.parts.map fun part => (part.key,part.rect)

/-- A layout as the solution of the attachment equations. -/
structure Layout.Solution (plan : Plan Rat) (layout : Layout Rat) : Prop where
  distinct : (layout.roomRects.map (·.1)).Nodup ∧ (layout.partRects.map (·.1)).Nodup
  solves : Equations plan layout.roomRects layout.partRects
  /-- Every furnishing sits in its host. -/
  furnished : ∀ placed ∈ layout.furnishings, ∃ f host,
    Hosted plan layout.roomRects layout.partRects placed f host ∧ f.Sits host placed.rect
  /-- No other rectangles for the rooms and parts of the layout solve the equations. -/
  unique : ∀ rooms parts, rooms.map (·.1) = layout.roomRects.map (·.1) →
    parts.map (·.1) = layout.partRects.map (·.1) → Equations plan rooms parts →
      rooms = layout.roomRects ∧ parts = layout.partRects

/-- The layout of a plan is the one solution of the attachment equations. -/
theorem layout_solution (plan : Plan Rat) (config : LayoutConfig Rat) :
    (plan.layout config).Solution plan := by
  have hrooms : (plan.layout config).roomRects = (placePlan config plan.rooms).roomRects := rfl
  have hparts : (plan.layout config).partRects = (placePlan config plan.rooms).partRects := rfl
  have hfurnished : ∀ placed ∈ (plan.layout config).furnishings, ∃ f host,
      Hosted plan (plan.layout config).roomRects (plan.layout config).partRects placed f host ∧
        f.Sits host placed.rect := by
    intro placed hplaced
    obtain ⟨room,hroom,hplaced⟩ := List.mem_flatMap.mp hplaced
    exact sits_of_mem_furnishingsOf (Plan.mem_firstRooms_iff.mp hroom) hplaced
  rcases placePlan_rects config plan.rooms with ⟨hr,hp⟩ | ⟨hr,hp⟩
  · rw [hr] at hrooms
    rw [hp] at hparts
    refine ⟨by simp [hrooms,hparts],by simpa [hrooms,hparts] using equations_nil,hfurnished,?_⟩
    intro rooms parts hkeys hkeys' _
    rw [hrooms] at hkeys ⊢
    rw [hparts] at hkeys' ⊢
    exact ⟨List.map_eq_nil_iff.mp hkeys,List.map_eq_nil_iff.mp hkeys'⟩
  · rw [hr] at hrooms
    rw [hp] at hparts
    refine ⟨?_,?_,hfurnished,?_⟩
    · rw [hrooms,hparts]
      exact ⟨nodup_roomRects_placeRooms,nodup_partRects_placeRooms⟩
    · rw [hrooms,hparts]
      exact equations_placeRooms
    · intro rooms parts hkeys hkeys' h
      rw [hrooms] at hkeys ⊢
      rw [hparts] at hkeys' ⊢
      exact h.eq_placeRooms hkeys hkeys'

end Blueprint
