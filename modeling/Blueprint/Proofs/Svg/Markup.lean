import Blueprint.Proofs.Svg.Group
import Blueprint.Proofs.Svg.Rules

/-!
No text of a plan is read as markup. Whatever names, texts and colors a layout holds, its drawing is
read as the tags that are written for it, and they are read back as they were.
-/

namespace Blueprint

open Svg (Step Group Item Plain)

/-! ### Reading a drawing -/

theorem tame_steps {layout : Layout Float} {config : Svg.Config} :
    ∀ s ∈ layout.steps config, s.Tame := by
  intro s hs
  rw [steps_eq_groups] at hs
  obtain ⟨g,hg,hs⟩ := List.mem_flatMap.mp hs
  rcases List.mem_append.mp hs with hs | hs
  · rcases List.mem_cons.mp hs with rfl | hs
    · refine ⟨fun name hname => ?_,Svg.plain_nil,Or.inl rfl⟩
      obtain rfl := List.mem_singleton.mp hname
      exact plain_classNames _ (mem_classNames_of_mem_groups hg)
    · exact (held_inner hg s hs).tame
  · obtain rfl := List.mem_singleton.mp hs
    exact ⟨by simp [Step.classes],Svg.plain_nil,Or.inl rfl⟩

theorem plain_theme (config : Svg.Config) (hstem : Plain (config.classStem.getD "").toList) :
    ∀ style ∈ Svg.theme config .standard, Plain style := by
  have hblock : Plain (Svg.tokenBlock .standard) := by decide +kernel
  refine List.forall_mem_cons.mpr ⟨hblock,fun style hstyle => ?_⟩
  obtain ⟨rule,hrule,rfl⟩ := List.mem_map.mp hstyle
  exact Svg.plain_rules config .standard hstem rule hrule

/-- The document of a layout, before it is written. -/
def Layout.canvas (layout : Layout Float) (config : Svg.Config) (sheet : Stylesheet) :
    Svg.Canvas := ⟨config,Svg.theme config sheet,layout.steps config⟩

/-- What a reader finds in the drawing of a layout. -/
def Layout.items (layout : Layout Float) (config : Svg.Config) : List Item :=
  (layout.canvas config .standard).items layout.bounds

/-- A drawing is read as its tags, unless its styles hold some too. -/
theorem reads_styled (layout : Layout Float) {config : Svg.Config} {sheet : Stylesheet}
    (hstem : Plain (config.classStem.getD "").toList)
    (hstyles : ∀ style ∈ Svg.theme config sheet, Svg.Inert style) :
    Svg.Reads (layout.svg config sheet).toList
      ((layout.canvas config sheet).items layout.bounds) := by
  have htext : (layout.svg config sheet).toList =
      (layout.canvas config sheet).document layout.bounds := String.toList_ofList
  rw [htext]
  exact Svg.Canvas.reads_document (fun s hs => (tame_steps s hs).clean hstem) hstyles layout.bounds

theorem reads_svg (layout : Layout Float) {config : Svg.Config}
    (hstem : Plain (config.classStem.getD "").toList) :
    Svg.Reads (layout.svg config .standard).toList (layout.items config) :=
  reads_styled layout hstem fun style hstyle => (plain_theme config hstem style hstyle).written.inert

/-- Groups are elements of their own, one behind another. -/
theorem balanced_steps (layout : Layout Float) (config : Svg.Config) :
    Svg.Balanced ((layout.steps config).flatMap fun s => Svg.tags (s.items config)) := by
  rw [steps_eq_groups,List.flatMap_assoc]
  refine Svg.balanced_flatMap fun g hg => ?_
  have hinner : Svg.Balanced (g.inner.flatMap fun s => Svg.tags (s.items config)) :=
    Svg.balanced_flatMap fun s hs => (Step.balanced_items (held_inner hg s hs).mark).tags
  have hopen := Step.begins?_tag config (.openGroup g.id.toList [g.className])
  have helement := hinner.element hopen (Step.ends?_tag config _) (Step.ends?_tag config .closeGroup)
  simpa [Group.steps,Step.tags_items,Step.words?] using helement

/-! ### What is found in a drawing -/

/-- What is collected from the steps of a drawing: room by room, then opening by opening. -/
theorem flatMap_steps {β : Type} (layout : Layout Float) (config : Svg.Config)
    (read : Step → List β) : (layout.steps config).flatMap read =
      layout.composites.flatMap (fun c =>
        read (.openGroup ("room-" ++ c.1).toList ["room"]) ++
          ((c.2.steps config.debug).flatMap read ++
            (layout.furnishingsIn c.1).flatMap (fun f => f.steps.flatMap read) ++
            (if config.labels then (layout.label? c.1).toList else []).flatMap read) ++
          read .closeGroup) ++
        layout.openings.flatMap fun o => o.group.steps.flatMap read := by
  rw [steps_eq_groups,Layout.groups,List.flatMap_append,List.flatMap_append,List.flatMap_map,
    List.flatMap_map,List.flatMap_assoc,List.flatMap_assoc]
  simp [Group.steps,Layout.roomGroup,List.flatMap_assoc]

/-- A step that writes no text of the plan. -/
def Svg.Step.Bare (s : Step) : Prop := s.more = [] ∧ s.words? = none

theorem bare_composite (shape : Composite Float) (debug : Bool) :
    ∀ s ∈ shape.steps debug, s.Bare := by
  intro s hs
  rcases mem_steps_composite hs with hs | ⟨_,_,_,rfl⟩
  · obtain ⟨i,hi,rfl⟩ := List.mem_mapIdx.mp hs
    exact ⟨rfl,rfl⟩
  · exact ⟨rfl,rfl⟩

theorem bare_opening (o : PlacedOpening Float) : ∀ s ∈ o.group.steps, s.Bare := by
  intro s hs
  rcases List.mem_append.mp hs with hs | hs
  · rcases List.mem_cons.mp hs with rfl | hs
    · exact ⟨rfl,rfl⟩
    · rcases mem_inner_opening hs with rfl | ⟨_,rfl⟩ | ⟨_,rfl⟩ | ⟨_,rfl⟩ <;> exact ⟨rfl,rfl⟩
  · obtain rfl := List.mem_singleton.mp hs
    exact ⟨rfl,rfl⟩

/-- What no bare step holds is collected from furnishings and labels. -/
theorem filterMap_steps {β : Type} (layout : Layout Float) (config : Svg.Config)
    {read : Step → Option β} (hbare : ∀ s, s.Bare → read s = none) :
    (layout.steps config).filterMap read = layout.composites.flatMap fun c =>
      (layout.furnishingsIn c.1).flatMap (fun f => f.steps.filterMap read) ++
        (if config.labels then (layout.label? c.1).toList else []).filterMap read := by
  have hnil {steps : List Step} (h : ∀ s ∈ steps, s.Bare) :
      steps.flatMap (fun s => (read s).toList) = [] := by
    rw [← List.filterMap_eq_flatMap_toList]
    exact List.filterMap_eq_nil_iff.mpr fun s hs => hbare s (h s hs)
  have hopenings : (layout.openings.flatMap fun o =>
      o.group.steps.flatMap fun s => (read s).toList) = [] :=
    List.flatMap_eq_nil_iff.mpr fun o _ => hnil (bare_opening o)
  rw [List.filterMap_eq_flatMap_toList,flatMap_steps,hopenings,List.append_nil]
  refine List.flatMap_congr fun c _ => ?_
  have hopen (id : List Char) (names : List String) : read (.openGroup id names) = none :=
    hbare _ ⟨rfl,rfl⟩
  have hclose : read .closeGroup = none := hbare _ ⟨rfl,rfl⟩
  simp [hnil (bare_composite c.2 config.debug),hopen,hclose,List.filterMap_eq_flatMap_toList]

theorem ids_steps (layout : Layout Float) (config : Svg.Config) :
    ((layout.steps config).filterMap fun s => (s.tag config).value? "g id=") =
      (layout.groups config).map fun g => Svg.escape g.id.toList := by
  rw [steps_eq_groups,List.filterMap_flatMap,← List.flatMap_singleton' (List.map _ _),
    List.flatMap_map]
  refine List.flatMap_congr fun g hg => ?_
  have hinner : g.inner.filterMap (fun s => (s.tag config).value? "g id=") = [] :=
    List.filterMap_eq_nil_iff.mpr fun s hs => by
      have hmark := (held_inner hg s hs).mark
      rw [s.value?_id_tag]
      cases s <;> simp_all [Step.isMark]
  have hopen := Step.value?_id_tag config (.openGroup g.id.toList [g.className])
  have hclose := Step.value?_id_tag config .closeGroup
  simp only [Group.steps,List.cons_append,List.filterMap_cons,List.filterMap_append,hopen,hclose,
    hinner]
  rfl

theorem fills_furnishing (f : PlacedFurnishing Float) (config : Svg.Config) :
    (f.steps.filterMap fun s => (s.tag config).value? " fill=") =
      (f.color.map fun color => Svg.escape color.toList).toList := by
  simp only [Step.value?_fill_tag]
  unfold PlacedFurnishing.steps
  cases f.color <;> cases f.shape <;> cases f.text <;> simp [Step.more]

theorem words_furnishing (f : PlacedFurnishing Float) :
    f.steps.filterMap Step.words? = (f.text.map fun text => Svg.escape text.toList).toList := by
  unfold PlacedFurnishing.steps
  cases f.color <;> cases f.shape <;> cases f.text <;> rfl

/-! ### Two drawings that differ in texts only -/

/-- The outlines of the tags of a step. -/
def Svg.Step.outlines (config : Svg.Config) (s : Step) : List (List Char) :=
  (Svg.tags (s.items config)).map Item.outline

theorem Svg.Step.outlines_eq (config : Svg.Config) (s : Step) : s.outlines config =
    (s.tag config).outline :: (s.words?.map fun _ => Step.endOfText.outline).toList := by
  rw [Step.outlines,Step.tags_items]
  cases s.words? <;> rfl

/-- The furnishing without the words of its text and color, if it has them. -/
def PlacedFurnishing.muted (f : PlacedFurnishing Float) : PlacedFurnishing Float :=
  { f with color := f.color.map fun _ => "", text := f.text.map fun _ => "" }

def PlacedRoom.muted (r : PlacedRoom Float) : PlacedRoom Float :=
  { r with name := r.name.map fun _ => "" }

def PlacedPart.muted (p : PlacedPart Float) : PlacedPart Float :=
  { p with name := p.name.map fun _ => "" }

/-- The layout without the words of its names, texts and colors, wherever there are any. -/
def Layout.muted (layout : Layout Float) : Layout Float :=
  { layout with
    rooms := layout.rooms.map PlacedRoom.muted
    parts := layout.parts.map PlacedPart.muted
    furnishings := layout.furnishings.map PlacedFurnishing.muted }

theorem outlines_furnishing (f : PlacedFurnishing Float) (config : Svg.Config) :
    f.muted.steps.flatMap (Step.outlines config) = f.steps.flatMap (Step.outlines config) := by
  unfold PlacedFurnishing.steps PlacedFurnishing.muted
  cases f.color <;> cases f.shape <;> cases f.text <;>
    simp [Step.outlines_eq,Step.tag,Step.fields,Step.element,Step.last,Svg.outline_foundTag,
      Svg.field,Step.words?]

theorem outlines_label (layout : Layout Float) (config : Svg.Config) (id : String) :
    (layout.muted.label? id).toList.flatMap (Step.outlines config) =
      (layout.label? id).toList.flatMap (Step.outlines config) := by
  have hfind : layout.muted.rooms.find? (·.id == id) =
      (layout.rooms.find? (·.id == id)).map PlacedRoom.muted := List.find?_map ..
  rw [Layout.label?,Layout.label?,hfind]
  cases layout.rooms.find? (·.id == id) with
  | none => rfl
  | some r =>
    simp only [Option.map_some,Option.toList_some,List.flatMap_singleton,Step.outlines_eq]
    rfl

theorem furnishingsIn_muted (layout : Layout Float) (id : String) :
    layout.muted.furnishingsIn id = (layout.furnishingsIn id).map PlacedFurnishing.muted :=
  List.filter_map

/-- The tags of a drawing do not show what its texts are. -/
theorem outlines_muted (layout : Layout Float) (config : Svg.Config) :
    (layout.muted.steps config).flatMap (Step.outlines config) =
      (layout.steps config).flatMap (Step.outlines config) := by
  rw [flatMap_steps,flatMap_steps]
  refine congrArg₂ (· ++ ·) (List.flatMap_congr fun c _ => ?_) rfl
  have hfurnishings : (layout.muted.furnishingsIn c.1).flatMap
      (fun f => f.steps.flatMap (Step.outlines config)) =
        (layout.furnishingsIn c.1).flatMap fun f => f.steps.flatMap (Step.outlines config) := by
    rw [furnishingsIn_muted,List.flatMap_map]
    exact List.flatMap_congr fun f _ => outlines_furnishing f config
  rw [hfurnishings]
  split
  · rw [outlines_label]
  · rfl

/-! ### The drawing as a whole -/

/-- A text of the plan as it is written. -/
def Svg.escaped (text : String) : List Char := Svg.escape text.toList

theorem map_unescape_escaped (texts : List String) :
    (texts.map Svg.escaped).map Svg.unescape = texts.map String.toList := by
  rw [List.map_map]
  exact List.map_congr_left fun text _ => Svg.unescape_escape text.toList

theorem ids_items (layout : Layout Float) (config : Svg.Config) :
    (Svg.tags (layout.items config)).filterMap (Item.value? "g id=") =
      (layout.composites.map (fun c => "room-" ++ c.1) ++
        layout.openings.map PlacedOpening.elementId).map Svg.escaped := by
  rw [← ids_groups layout config,List.map_map]
  exact (Svg.Canvas.ids_items _ _).trans (ids_steps layout config)

theorem fills_items (layout : Layout Float) (config : Svg.Config) :
    (Svg.tags (layout.items config)).filterMap (Item.value? " fill=") =
      (layout.composites.flatMap fun c =>
        (layout.furnishingsIn c.1).filterMap (·.color)).map Svg.escaped := by
  have hbare (s : Step) (h : s.Bare) : (s.tag config).value? " fill=" = none := by
    rw [s.value?_fill_tag,h.1]
    rfl
  refine (Svg.Canvas.fills_items _ _).trans ((filterMap_steps layout config hbare).trans ?_)
  rw [List.map_flatMap]
  refine List.flatMap_congr fun c _ => ?_
  have hlabel : (if config.labels then (layout.label? c.1).toList else []).filterMap
      (fun s => (s.tag config).value? " fill=") = [] := by
    refine List.filterMap_eq_nil_iff.mpr fun s hs => ?_
    split at hs
    · obtain ⟨r,_,rfl⟩ := Option.map_eq_some_iff.mp (Option.mem_toList.mp hs)
      rw [Step.value?_fill_tag]
      rfl
    · cases hs
  rw [hlabel,List.append_nil,List.map_filterMap,List.filterMap_eq_flatMap_toList]
  exact List.flatMap_congr fun f _ => fills_furnishing f config

theorem texts_items (layout : Layout Float) (config : Svg.Config) :
    Svg.texts (layout.items config) = (layout.composites.flatMap fun c =>
      (layout.furnishingsIn c.1).filterMap (·.text) ++
        if config.labels then
          ((layout.rooms.find? (·.id == c.1)).map fun r => r.name.getD r.id).toList
        else []).map Svg.escaped := by
  refine (Svg.Canvas.texts_items _ _).trans
    ((filterMap_steps layout config fun s (h : s.Bare) => h.2).trans ?_)
  rw [List.map_flatMap]
  refine List.flatMap_congr fun c _ => ?_
  have hlabel : (if config.labels then (layout.label? c.1).toList else []).filterMap Step.words? =
      (if config.labels then
        ((layout.rooms.find? (·.id == c.1)).map fun r => r.name.getD r.id).toList
      else []).map Svg.escaped := by
    unfold Layout.label?
    split
    · cases layout.rooms.find? (·.id == c.1) <;> rfl
    · rfl
  rw [hlabel,List.map_append,List.map_filterMap,List.filterMap_eq_flatMap_toList]
  exact congrArg (· ++ _) (List.flatMap_congr fun f _ => words_furnishing f)

theorem outlines_items (layout : Layout Float) (config : Svg.Config) :
    (Svg.tags (layout.muted.items config)).map Item.outline =
      (Svg.tags (layout.items config)).map Item.outline := by
  have hsteps : ((layout.muted.steps config).flatMap fun s => Svg.tags (s.items config)).map
      Item.outline = ((layout.steps config).flatMap fun s => Svg.tags (s.items config)).map
        Item.outline := by
    rw [List.map_flatMap,List.map_flatMap]
    exact outlines_muted layout config
  rw [Layout.items,Layout.items,Svg.Canvas.tags_items,Svg.Canvas.tags_items]
  simp only [List.map_append]
  exact congrArg (fun l => _ ++ l ++ _) hsteps

/-- The drawing of a layout, as a reader finds it. -/
structure Layout.MarkedUp (layout : Layout Float) (config : Svg.Config) : Prop where
  /-- The text is read as the tags of the drawing, with characters between them. -/
  read : Svg.read .outside (layout.svg config .standard).toList = some (layout.items config)
  nested : Svg.Nested [] (layout.items config)
  /-- Every angle starts one of the tags. -/
  angles : ∀ before after, (layout.svg config .standard).toList = before ++ '<' :: after →
    ∃ done fields last rest, Svg.read .outside before = some done ∧
      layout.items config = done ++ .tag fields last :: rest
  ampersands : ∀ before after, (layout.svg config .standard).toList = before ++ '&' :: after →
    Svg.StartsEntity ('&' :: after)
  values : ∀ item ∈ layout.items config, ∀ value ∈ item.values, '"' ∉ value ∧ '<' ∉ value
  /-- Other names, texts and colors in the same places leave the tags and their attributes. -/
  outlines : ∀ layout' : Layout Float, layout'.muted = layout.muted →
    ∃ items, Svg.read .outside (layout'.svg config .standard).toList = some items ∧
      (Svg.tags items).map Item.outline = (Svg.tags (layout.items config)).map Item.outline
  /-- The ids of the groups are read back. -/
  ids : ((Svg.tags (layout.items config)).filterMap (Item.value? "g id=")).map Svg.unescape =
    (layout.composites.map (fun c => "room-" ++ c.1) ++
      layout.openings.map PlacedOpening.elementId).map String.toList
  /-- The colors of furnishings are read back. -/
  fills : ((Svg.tags (layout.items config)).filterMap (Item.value? " fill=")).map Svg.unescape =
    (layout.composites.flatMap fun c =>
      (layout.furnishings.filter (isHostedBy ·.host c.1)).filterMap (·.color)).map String.toList
  /-- The texts of furnishings and the names of rooms are read back. -/
  texts : (Svg.texts (layout.items config)).map Svg.unescape =
    (layout.composites.flatMap fun c =>
      (layout.furnishings.filter (isHostedBy ·.host c.1)).filterMap (·.text) ++
        if config.labels then
          ((layout.rooms.find? (·.id == c.1)).map fun r => r.name.getD r.id).toList
        else []).map String.toList

theorem svg_markedUp (layout : Layout Float) (config : Svg.Config)
    (hstem : config.classStem = Svg.Config.standard.classStem) : layout.MarkedUp config := by
  have hplain : Plain (config.classStem.getD "").toList := by
    rw [hstem]
    decide
  have hread := (reads_svg layout hplain).read
  exact
    { read := hread
      nested :=
        Svg.Canvas.nested_items (layout.canvas config .standard) (balanced_steps layout config)
          layout.bounds
      angles := fun before after htext => Svg.exists_tag_of_angle hread htext
      ampersands := fun before after htext => Svg.startsEntity_of_read hread htext
      values := Svg.not_mem_values_of_read hread (by simp [Svg.Place.values])
      outlines := by
        intro layout' hmuted
        refine ⟨_,(reads_svg layout' hplain).read,?_⟩
        rw [← outlines_items layout',hmuted,outlines_items]
      ids := by
        rw [ids_items,map_unescape_escaped]
      fills := by
        rw [fills_items,map_unescape_escaped]
        rfl
      texts := by
        rw [texts_items,map_unescape_escaped]
        rfl }

/-- A room with a table, of which every text looks like markup. -/
def forgedPlan : Plan Float :=
  ⟨[⟨⟨"a&amp;<b>",some "</text><g id=\"room-x\">",1000,1000,.topLeft,⟨originName,.topLeft⟩,(0,0)⟩,
    [],[⟨.circle,0,0,100,none,some "\"/><script>",some "'&lt;'",.topLeft,.topLeft⟩]⟩],[],[]⟩

theorem svg_markedUp_forged :
    Svg.Config.standard.classStem = some "fp-" ∧
    (forgedPlan.layout .standard).composites.map (·.1) = ["a&amp;<b>"] ∧
    (forgedPlan.layout .standard).furnishings.map (fun f => (f.color,f.text)) =
      [(some "\"/><script>",some "'&lt;'")] ∧
    (forgedPlan.layout .standard).MarkedUp .standard :=
  ⟨rfl,by decide +kernel,by decide +kernel,svg_markedUp (forgedPlan.layout .standard) .standard rfl⟩

end Blueprint
