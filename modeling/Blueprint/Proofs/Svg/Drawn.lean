import Blueprint.Proofs.Layout.Owner
import Blueprint.Proofs.Svg.Markup

/-!
Everything of a layout is drawn once. The lines of a drawing are those of its groups, one for every
placed room and then one for every placed opening. Their ids tell them apart, and the group of a
room holds its fills, its walls and the furnishings that stand in it or in one of its parts.
-/

namespace Blueprint

open Svg (Step Group Item Plain)

/-! ### Furnishings of a room -/

/-- A room is found at the start of the names of its own parts only: what is in front of their first
dot is its whole id, and no start of a longer one. -/
theorem isHostedBy_text {α : Type} {host : Host α} {room : String} (hroom : '.' ∉ room.toList)
    (howner : '.' ∉ host.owner.toList) : isHostedBy host.text room = (host.owner == room) := by
  cases host with
  | room placed =>
    have hstart : (room.toList ++ ['.']).isPrefixOf placed.id.toList = false := by
      rw [Bool.eq_false_iff]
      intro h
      have hstart := List.isPrefixOf_iff_prefix.mp h
      exact howner (hstart.subset (List.mem_append_right _ List.mem_cons_self))
    rw [isHostedBy,Host.text,hstart,Bool.or_false]
    rfl
  | part placed =>
    have howner : '.' ∉ placed.key.room.toList := howner
    have hne : (placed.key.text == room) = false :=
      beq_eq_false_iff_ne.mpr (PartKey.ne_text hroom placed.key).symm
    rw [isHostedBy,Host.text,hne,Bool.false_or,Bool.eq_iff_iff,List.isPrefixOf_iff_prefix,
      beq_iff_eq,PartKey.toList_text]
    constructor
    · rintro ⟨rest,hrest⟩
      have hcut := Text.splitFirst?_append hroom rest
      rw [← List.singleton_append,← List.append_assoc,hrest,
        Text.splitFirst?_append howner] at hcut
      exact String.toList_inj.mp (Prod.mk.inj (Option.some.inj hcut)).1
    · intro he
      exact ⟨placed.key.part.toList,by simp [← he,Host.owner]⟩

section Placed

variable {plan : Plan Float} {config : LayoutConfig Float}

theorem noDot_of_mem_hosts (hvalid : plan.isValid = true) {host : Host Float}
    (h : host ∈ (plan.layout config).hosts) : '.' ∉ host.owner.toList := by
  cases host with
  | room placed => exact (plainId_of_mem_rooms hvalid ((mem_hosts_room plan config).mp h)).noDot
  | part placed => exact noDot_of_mem_parts hvalid ((mem_hosts_part plan config).mp h)

/-- What is drawn in the group of a room belongs to the room. -/
theorem furnishingsIn_eq_belongings (hvalid : plan.isValid = true) {room : PlacedRoom Float}
    (h : room ∈ (plan.layout config).rooms) :
    (plan.layout config).furnishingsIn room.id = (plan.layout config).belongings room.id := by
  refine List.filter_congr fun f hf => ?_
  obtain ⟨host,hhost,hf⟩ := exists_host_of_mem_furnishings hf
  rw [hf,isHostedBy_text (plainId_of_mem_rooms hvalid h).noDot (noDot_of_mem_hosts hvalid hhost),
    owner?_text hvalid hhost]
  rfl

end Placed

/-! ### Ids of groups -/

theorem elementId_eq (o : PlacedOpening Float) :
    o.elementId = o.kind.name ++ "-" ++ o.index.repr := rfl

theorem slot_inj_elementId {o o' : PlacedOpening Float} (h : o.elementId = o'.elementId) :
    o.slot = o'.slot := by
  rw [elementId_eq,elementId_eq,OpeningKind.numbered_inj] at h
  exact Prod.ext h.1 h.2

theorem elementId_ne_room (o : PlacedOpening Float) (id : String) : "room-" ++ id ≠ o.elementId := by
  intro h
  rw [elementId_eq,← String.toList_inj] at h
  cases hkind : o.kind <;> simp [hkind,OpeningKind.name] at h

/-- The ids of rooms and the numbers of openings give every group an id of its own. -/
theorem nodup_ids_groups (plan : Plan Float) (config : LayoutConfig Float) (style : Svg.Config) :
    (((plan.layout config).groups style).map (·.id)).Nodup := by
  have hkeys : (plan.layout config).composites.map (·.1) =
      (plan.layout config).rooms.map (·.id) := List.map_map ..
  have hrooms : ((plan.layout config).composites.map fun c => "room-" ++ c.1).Nodup := by
    have hinj : Function.Injective fun id : String => "room-" ++ id := fun _ _ h => by
      simpa [← String.toList_inj] using h
    have hids := (hkeys ▸ nodup_ids_layout plan config).map hinj
    rwa [List.map_map] at hids
  have hopenings : ((plan.layout config).openings.map PlacedOpening.elementId).Nodup := by
    have hslots := List.pairwise_map.mp (nodup_slots_layout plan config)
    exact List.pairwise_map.mpr (hslots.imp fun hne he => hne (slot_inj_elementId he))
  rw [ids_groups,List.nodup_append]
  refine ⟨hrooms,hopenings,?_⟩
  intro id hid id' hid'
  obtain ⟨c,_,rfl⟩ := List.mem_map.mp hid
  obtain ⟨o,_,rfl⟩ := List.mem_map.mp hid'
  exact elementId_ne_room o c.1

/-! ### Lines of groups -/

namespace Svg

/-- A group line by line. -/
def Group.lines (config : Config) (g : Group) : List (List Char) :=
  (config.indent 1 ++
      openTag "g" [attr "id" (escaped g.id),config.classAttr [g.className]]) ::
    g.inner.map (fun s => config.indent 2 ++ s.chars config) ++ [config.indent 1 ++ closeTag "g"]

/-- Steps that are no marks stay at their depth. -/
theorem Canvas.lines_inner {config : Config} {depth : Nat} {inner : List Step}
    (h : ∀ s ∈ inner, s.isMark = false) (rest : List Step) :
    lines config depth (inner ++ rest) =
      inner.map (fun s => config.indent depth ++ s.chars config) ++ lines config depth rest := by
  induction inner with
  | nil => rfl
  | cons s inner ih =>
    obtain ⟨hs,h⟩ := List.forall_mem_cons.mp h
    have hlevel : s.level depth = depth ∧ s.after depth = depth := by
      cases s <;> first | exact ⟨rfl,rfl⟩ | cases hs
    rw [List.cons_append,lines,hlevel.1,hlevel.2,ih h]
    rfl

theorem Canvas.lines_groups {config : Config} {groups : List Group}
    (h : ∀ g ∈ groups, ∀ s ∈ g.inner, s.isMark = false) :
    lines config 1 (groups.flatMap Group.steps) = groups.flatMap (Group.lines config) := by
  induction groups with
  | nil => rfl
  | cons g groups ih =>
    obtain ⟨hg,h⟩ := List.forall_mem_cons.mp h
    rw [List.flatMap_cons,List.flatMap_cons,Group.steps,List.cons_append,List.cons_append,
      List.append_assoc,lines,lines_inner hg,← ih h,Group.lines,List.cons_append,List.append_assoc]
    rfl

end Svg

/-! ### What is collected from groups -/

/-- The shape that is drawn for a furnishing. -/
def PlacedFurnishing.drawing (f : PlacedFurnishing Float) : Step :=
  let fill := (f.color.map fun color => Svg.attr "fill" (Svg.escaped color)).getD []
  match f.shape with
  | .square => .rect f.rect ["object"] fill
  | .circle =>
    .circle f.rect.center (Scalar.half (Scalar.least f.rect.width f.rect.height)) ["object"] fill

theorem steps_eq_drawing (f : PlacedFurnishing Float) : f.steps = f.drawing ::
    (f.text.map fun t => Step.text t.toList f.rect.center ["label","object-label"]).toList := by
  unfold PlacedFurnishing.steps PlacedFurnishing.drawing
  cases f.color <;> cases f.shape <;> rfl

namespace Svg.Step

/-- The rectangle that a step fills for a room or a part. -/
def fill? : Step → Option (Rect Float)
  | rect r classes _ =>
    if classes = ["room-fill"] ∨ classes = ["part-fill"] then some r else none
  | _ => none

/-- The segment that a step draws of a wall. -/
def wall? : Step → Option (Segment Float)
  | line s classes => if classes = ["wall"] then some s else none
  | _ => none

/-- The step, if it draws the shape of a furnishing. -/
def object? (s : Step) : Option Step := if s.classes = ["object"] then some s else none

end Svg.Step

section Collected

/-- The classes of fills, walls and furnishings. -/
def solidClasses : List (List String) := [["room-fill"],["part-fill"],["wall"],["object"]]

variable {β : Type} {read : Step → Option β}

/-- Seams, texts and openings add nothing to what is read off fills, walls and furnishings. -/
theorem filterMap_roomGroup (hread : ∀ s, s.classes ∉ solidClasses → read s = none)
    (layout : Layout Float) (config : Svg.Config) (id : String) (shape : Composite Float) :
    (layout.roomGroup config id shape).inner.filterMap read =
      shape.fills.filterMap read ++ shape.outline.filterMap (fun s => read (.line s ["wall"])) ++
        (layout.furnishingsIn id).filterMap (fun f => read f.drawing) := by
  have hseam (s : Segment Float) : read (.line s ["shared-edge"]) = none :=
    hread _ (by decide : ["shared-edge"] ∉ solidClasses)
  have hlabel (w : List Char) (p : Point Float) : read (.text w p ["label"]) = none :=
    hread _ (by decide : ["label"] ∉ solidClasses)
  have hwords (w : List Char) (p : Point Float) :
      read (.text w p ["label","object-label"]) = none :=
    hread _ (by decide : ["label","object-label"] ∉ solidClasses)
  have hseams : (if config.debug then shape.seams.map fun s => Step.line s ["shared-edge"]
      else []).filterMap read = [] := by
    split <;> simp [List.filterMap_map,hseam]
  have hlabels : (if config.labels then (layout.label? id).toList else []).filterMap read = [] := by
    unfold Layout.label?
    split
    · cases layout.rooms.find? (·.id == id) <;> simp [hlabel]
    · rfl
  have hfurnishing (f : PlacedFurnishing Float) :
      f.steps.filterMap read = (read f.drawing).toList := by
    rw [steps_eq_drawing]
    cases f.text <;> cases hdrawing : read f.drawing <;> simp [hdrawing,hwords]
  simp only [Layout.roomGroup,Composite.steps,List.filterMap_append,hseams,hlabels,
    List.append_nil,List.filterMap_flatMap,hfurnishing,List.filterMap_map]
  rw [← List.filterMap_eq_flatMap_toList]
  rfl

theorem filterMap_openingGroup (hread : ∀ s, s.classes ∉ solidClasses → read s = none)
    (o : PlacedOpening Float) : o.group.inner.filterMap read = [] := by
  refine List.filterMap_eq_nil_iff.mpr fun s hs => hread s ?_
  rcases mem_inner_opening hs with rfl | ⟨_,rfl⟩ | ⟨_,rfl⟩ | ⟨_,rfl⟩
  · exact (by decide : ["opening"] ∉ solidClasses)
  · exact (by decide : ["door-leaf"] ∉ solidClasses)
  · exact (by decide : ["door-swing"] ∉ solidClasses)
  · exact (by decide : ["window-pane"] ∉ solidClasses)

theorem filterMap_groups (hread : ∀ s, s.classes ∉ solidClasses → read s = none)
    (layout : Layout Float) (config : Svg.Config) :
    (layout.groups config).map (fun g => g.inner.filterMap read) =
      layout.composites.map (fun c => c.2.fills.filterMap read ++
        c.2.outline.filterMap (fun s => read (.line s ["wall"])) ++
          (layout.furnishingsIn c.1).filterMap (fun f => read f.drawing)) ++
        layout.openings.map fun _ => [] := by
  rw [Layout.groups,List.map_append,List.map_map,List.map_map]
  exact congrArg₂ (· ++ ·)
    (List.map_congr_left fun c _ => filterMap_roomGroup hread layout config c.1 c.2)
    (List.map_congr_left fun o _ => filterMap_openingGroup hread o)

end Collected

theorem filterMap_mapIdx {β γ : Type} {f : Nat → β → γ} {g : γ → Option β}
    (h : ∀ i b, g (f i b) = some b) (l : List β) : (l.mapIdx f).filterMap g = l := by
  induction l generalizing f with
  | nil => rfl
  | cons b l ih =>
    rw [List.mapIdx_cons,List.filterMap_cons_some (h 0 b),ih fun i b => h (i + 1) b]

theorem fills_groups (layout : Layout Float) (config : Svg.Config) :
    (layout.groups config).map (fun g => g.inner.filterMap Step.fill?) =
      layout.composites.map (·.2.rectangles) ++ layout.openings.map fun _ => [] := by
  have hread (s : Step) (h : s.classes ∉ solidClasses) : s.fill? = none := by
    cases s <;> simp_all [Step.fill?,Step.classes,solidClasses]
  have hfill (i : Nat) (r : Rect Float) :
      (Step.rect r [if i = 0 then "room-fill" else "part-fill"] []).fill? = some r := by
    by_cases hi : i = 0 <;> simp [Step.fill?,hi]
  have hwall (s : Segment Float) : (Step.line s ["wall"]).fill? = none := rfl
  have hdrawing (f : PlacedFurnishing Float) : f.drawing.fill? = none := by
    unfold PlacedFurnishing.drawing
    cases f.shape <;> simp [Step.fill?]
  rw [filterMap_groups hread]
  simp [Composite.fills,filterMap_mapIdx hfill,hwall,hdrawing]

theorem walls_groups (layout : Layout Float) (config : Svg.Config) :
    (layout.groups config).map (fun g => g.inner.filterMap Step.wall?) =
      layout.composites.map (·.2.outline) ++ layout.openings.map fun _ => [] := by
  have hread (s : Step) (h : s.classes ∉ solidClasses) : s.wall? = none := by
    cases s <;> simp_all [Step.wall?,Step.classes,solidClasses]
  have hfills (shape : Composite Float) : shape.fills.filterMap Step.wall? = [] := by
    refine List.filterMap_eq_nil_iff.mpr fun s hs => ?_
    obtain ⟨i,hi,rfl⟩ := List.mem_mapIdx.mp hs
    rfl
  have hwall (s : Segment Float) : (Step.line s ["wall"]).wall? = some s := by simp [Step.wall?]
  have hdrawing (f : PlacedFurnishing Float) : f.drawing.wall? = none := by
    unfold PlacedFurnishing.drawing
    cases f.shape <;> rfl
  rw [filterMap_groups hread]
  simp [hfills,hwall,hdrawing]

theorem objects_groups (layout : Layout Float) (config : Svg.Config) :
    (layout.groups config).map (fun g => g.inner.filterMap Step.object?) =
      layout.composites.map (fun c => (layout.furnishingsIn c.1).map PlacedFurnishing.drawing) ++
        layout.openings.map fun _ => [] := by
  have hread (s : Step) (h : s.classes ∉ solidClasses) : s.object? = none :=
    if_neg fun he => h (by simp [he,solidClasses])
  have hfills (shape : Composite Float) : shape.fills.filterMap Step.object? = [] := by
    refine List.filterMap_eq_nil_iff.mpr fun s hs => ?_
    obtain ⟨i,hi,rfl⟩ := List.mem_mapIdx.mp hs
    by_cases hi : i = 0 <;> simp [Step.object?,Step.classes,hi]
  have hwall (s : Segment Float) : (Step.line s ["wall"]).object? = none := by
    simp [Step.object?,Step.classes]
  have hdrawing (f : PlacedFurnishing Float) : f.drawing.object? = some f.drawing := by
    unfold PlacedFurnishing.drawing
    cases f.shape <;> simp [Step.object?,Step.classes]
  rw [filterMap_groups hread]
  simp [hfills,hwall,hdrawing]

/-! ### The drawing as a whole -/

/-- The lines in front of the groups: the beginning of the document, and its style block. -/
def Layout.front (layout : Layout Float) (config : Svg.Config) (sheet : Stylesheet) :
    List (List Char) :=
  (if config.standalone then [Svg.Canvas.declaration] else []) ++
    [Svg.Canvas.rootTag config layout.bounds] ++ Svg.Canvas.styleLines (Svg.theme config sheet)

theorem svg_eq_lines (layout : Layout Float) (config : Svg.Config) (sheet : Stylesheet) :
    (layout.svg config sheet).toList =
      (layout.front config sheet ++
        (layout.groups config).flatMap (Group.lines config)).flatMap (· ++ config.lineBreak) ++
          Svg.closeTag "svg" := by
  have hlines : Svg.Canvas.lines config 1 (layout.steps config) =
      (layout.groups config).flatMap (Group.lines config) := by
    rw [steps_eq_groups]
    exact Svg.Canvas.lines_groups fun g hg s hs => (held_inner hg s hs).mark
  rw [← hlines]
  exact String.toList_ofList

/-- A drawing of a layout that has everything once. -/
structure Layout.Drawn (layout : Layout Float) (config : Svg.Config) : Prop where
  /-- Line by line, a drawing is made of its groups. -/
  written : ∀ sheet, (layout.svg config sheet).toList =
    (layout.front config sheet ++
      (layout.groups config).flatMap (Group.lines config)).flatMap (· ++ config.lineBreak) ++
        Svg.closeTag "svg"
  /-- A group holds no other. -/
  flat : ∀ g ∈ layout.groups config, ∀ s ∈ g.inner, s.isMark = false
  /-- There is one group for every room and every opening, in order. -/
  ids : (layout.groups config).map (·.id) =
    layout.rooms.map (fun room => "room-" ++ room.id) ++
      layout.openings.map fun o => s!"{o.kind.name}-{o.index}"
  /-- No two groups have one id, as it is written. -/
  apart : ((layout.groups config).map fun g => Svg.escaped g.id).Nodup
  /-- These are all ids of groups that a reader finds. -/
  found : Plain (config.classStem.getD "").toList →
    ∃ items, Svg.read .outside (layout.svg config .standard).toList = some items ∧
      (Svg.tags items).filterMap (Item.value? "g id=") =
        (layout.groups config).map fun g => Svg.escaped g.id
  /-- The shapes of the rooms, one for every room in order. -/
  keys : layout.composites.map (·.1) = layout.rooms.map (·.id)
  /-- The group of a room has a fill for every rectangle of its shape, no other group has any. -/
  fills : (layout.groups config).map (fun g => g.inner.filterMap Step.fill?) =
    layout.composites.map (·.2.rectangles) ++ layout.openings.map fun _ => []
  /-- The same of walls and the segments of the outline. -/
  walls : (layout.groups config).map (fun g => g.inner.filterMap Step.wall?) =
    layout.composites.map (·.2.outline) ++ layout.openings.map fun _ => []
  /-- The group of a room has what belongs to the room, in order. -/
  objects : (layout.groups config).map (fun g => g.inner.filterMap Step.object?) =
    layout.rooms.map (fun room => (layout.belongings room.id).map PlacedFurnishing.drawing) ++
      layout.openings.map fun _ => []
  /-- From group to group, this makes all furnishings in their order. -/
  once : (layout.groups config).flatMap (fun g => g.inner.filterMap Step.object?) =
    layout.furnishings.map PlacedFurnishing.drawing
  /-- A furnishing belongs to the room that owns its host. -/
  owned : ∀ f ∈ layout.furnishings, ∃ host ∈ layout.hosts, f.host = host.text ∧
    layout.owner? f.host = some host.owner ∧ host.owner ∈ layout.rooms.map (·.id)

/-- The furnishings of rooms, as they are drawn. -/
theorem objects_layout {plan : Plan Float} {config : LayoutConfig Float}
    (hvalid : plan.isValid = true) (style : Svg.Config) :
    ((plan.layout config).groups style).map (fun g => g.inner.filterMap Step.object?) =
      (plan.layout config).rooms.map
        (fun room => ((plan.layout config).belongings room.id).map PlacedFurnishing.drawing) ++
      (plan.layout config).openings.map fun _ => [] := by
  have hcomposites : (plan.layout config).composites = (plan.layout config).rooms.map
      fun room => (room.id,compositeOf (plan.layout config).parts room) := rfl
  rw [objects_groups,hcomposites,List.map_map]
  refine congrArg (· ++ _) (List.map_congr_left fun room hroom => ?_)
  rw [Function.comp_apply,furnishingsIn_eq_belongings hvalid hroom]

/-- The drawing of a valid plan has every room, opening and furnishing once. -/
theorem svg_drawn (plan : Plan Float) (config : LayoutConfig Float) (style : Svg.Config)
    (hvalid : plan.isValid = true) : (plan.layout config).Drawn style where
  written := svg_eq_lines (plan.layout config) style
  flat g hg s hs := (held_inner hg s hs).mark
  ids := by
    have hrooms : (plan.layout config).composites.map (fun c => "room-" ++ c.1) =
        (plan.layout config).rooms.map fun room => "room-" ++ room.id := List.map_map ..
    rw [ids_groups,hrooms]
    rfl
  apart := by
    have hinj : Function.Injective Svg.escaped :=
      Svg.escape_injective.comp fun _ _ => String.toList_injective
    have hids := (nodup_ids_groups plan config style).map hinj
    rwa [List.map_map] at hids
  found hstem := by
    refine ⟨(plan.layout config).items style,(reads_svg _ hstem).read,?_⟩
    rw [ids_items,← ids_groups (plan.layout config) style,List.map_map]
    rfl
  keys := List.map_map ..
  fills := fills_groups (plan.layout config) style
  walls := walls_groups (plan.layout config) style
  objects := objects_layout hvalid style
  once := by
    rw [List.flatMap_def,objects_layout hvalid style,List.flatten_append,← List.flatMap_def,
      ← List.map_flatMap,flatMap_belongings hvalid]
    simp
  owned f hf := by
    obtain ⟨host,hhost,hf⟩ := exists_host_of_mem_furnishings hf
    exact ⟨host,hhost,hf,hf ▸ owner?_text hvalid hhost,owner_of_mem_hosts hhost⟩

/-- Two rooms side by side, of which one's id begins the other's, with a door. Each has a part that
is named for the other one, with a stool in it. -/
def namedAlike : Plan Float where
  rooms :=
    let stool : Furnishing Float := ⟨.circle,0,0,1,none,none,none,.topLeft,.topLeft⟩
    let alcove (id : String) : Part Float :=
      ⟨⟨id,none,1,1,.topLeft,⟨parentName,.bottomLeft⟩,(0,0)⟩,[stool]⟩
    [⟨⟨"hall",none,4,3,.topLeft,⟨originName,.topLeft⟩,(0,0)⟩,[alcove "hallway"],[]⟩,
      ⟨⟨"hallway",none,2,3,.topLeft,⟨"hall",.topRight⟩,(0,0)⟩,[alcove "hall"],[stool]⟩]
  doors := [⟨⟨"hall:right",1,1,none⟩,.inwardsLeft,.normal⟩]
  windows := []

theorem svg_drawn_namedAlike :
    namedAlike.isValid = true ∧
    ((namedAlike.layout .standard).groups .standard).map (·.id) =
      ["room-hall","room-hallway","door-0"] ∧
    (namedAlike.layout .standard).furnishings.map (·.host) =
      ["hall.hallway","hallway","hallway.hall"] ∧
    ["hall","hallway"].map (fun id => ((namedAlike.layout .standard).belongings id).map (·.host)) =
      [["hall.hallway"],["hallway","hallway.hall"]] ∧
    (namedAlike.layout .standard).Drawn .standard :=
  ⟨by decide +kernel,by decide +kernel,by decide +kernel,by decide +kernel,
    svg_drawn namedAlike .standard .standard (by decide +kernel)⟩

end Blueprint
