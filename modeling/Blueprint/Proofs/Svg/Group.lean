import Blueprint.Proofs.Svg.Canvas
import Blueprint.Svg.Drawing

/-!
The groups of a drawing: one for every room that is drawn, then one for every opening. A group holds
no other.
-/

namespace Blueprint

namespace Svg

/-- A group of a drawing with what it holds. -/
structure Group where
  id : String
  className : String
  inner : List Step

def Group.steps (g : Group) : List Step :=
  .openGroup g.id.toList [g.className] :: g.inner ++ [.closeGroup]

end Svg

open Svg (Step Group)

/-- The name that is written in a room. -/
def Layout.label? (layout : Layout Float) (id : String) : Option Step :=
  (layout.rooms.find? (·.id == id)).map fun r =>
    .text (r.name.getD r.id).toList r.rect.center ["label"]

/-- The furnishings that are drawn in the group of a room. -/
def Layout.furnishingsIn (layout : Layout Float) (id : String) : List (PlacedFurnishing Float) :=
  layout.furnishings.filter (isHostedBy ·.host id)

def Layout.roomGroup (layout : Layout Float) (config : Svg.Config) (id : String)
    (shape : Composite Float) : Group where
  id := "room-" ++ id
  className := "room"
  inner := shape.steps config.debug ++ (layout.furnishingsIn id).flatMap PlacedFurnishing.steps ++
    if config.labels then (layout.label? id).toList else []

def PlacedOpening.group (o : PlacedOpening Float) : Group where
  id := o.elementId
  className := o.kind.name
  inner := .polygon o.drawing.outline ["opening"] ::
    (o.drawing.leaf.map fun s => Step.line s ["door-leaf"]).toList ++
    (o.drawing.arc.map fun a => Step.path a.commands ["door-swing"]).toList ++
    (o.drawing.pane.map fun s => Step.line s ["window-pane"]).toList

def Layout.groups (layout : Layout Float) (config : Svg.Config) : List Group :=
  layout.composites.map (fun c => layout.roomGroup config c.1 c.2) ++
    layout.openings.map PlacedOpening.group

theorem steps_eq_groups (layout : Layout Float) (config : Svg.Config) :
    layout.steps config = (layout.groups config).flatMap Group.steps := by
  rw [Layout.groups,List.flatMap_append,List.flatMap_map,List.flatMap_map]
  rfl

theorem ids_groups (layout : Layout Float) (config : Svg.Config) :
    (layout.groups config).map (·.id) = layout.composites.map (fun c => "room-" ++ c.1) ++
      layout.openings.map PlacedOpening.elementId := by
  rw [Layout.groups,List.map_append,List.map_map,List.map_map]
  rfl

/-! ### What groups hold -/

theorem mem_steps_composite {shape : Composite Float} {debug : Bool} {s : Step}
    (h : s ∈ shape.steps debug) :
    s ∈ shape.fills ∨ ∃ segment, ∃ name ∈ ["wall","shared-edge"], s = .line segment [name] := by
  simp only [Composite.steps,List.mem_append] at h
  rcases h with (h | h) | h
  · exact Or.inl h
  · obtain ⟨segment,_,rfl⟩ := List.mem_map.mp h
    exact Or.inr ⟨segment,"wall",by simp,rfl⟩
  · split at h
    · obtain ⟨segment,_,rfl⟩ := List.mem_map.mp h
      exact Or.inr ⟨segment,"shared-edge",by simp,rfl⟩
    · cases h

theorem mem_inner_opening {o : PlacedOpening Float} {s : Step} (h : s ∈ o.group.inner) :
    s = .polygon o.drawing.outline ["opening"] ∨ (∃ segment, s = .line segment ["door-leaf"]) ∨
      (∃ a : SwingArc Float, s = .path a.commands ["door-swing"]) ∨
        ∃ segment, s = .line segment ["window-pane"] := by
  simp only [PlacedOpening.group,List.cons_append,List.mem_cons,List.mem_append] at h
  rcases h with rfl | ((h | h) | h)
  · exact Or.inl rfl
  all_goals obtain ⟨drawn,_,rfl⟩ := Option.map_eq_some_iff.mp (Option.mem_toList.mp h)
  · exact Or.inr (Or.inl ⟨drawn,rfl⟩)
  · exact Or.inr (Or.inr (Or.inl ⟨drawn,rfl⟩))
  · exact Or.inr (Or.inr (Or.inr ⟨drawn,rfl⟩))

/-- The classes of all steps that drawings have. -/
def classNames : List String :=
  ["room","room-fill","part-fill","wall","shared-edge","object","label","object-label","opening",
    "door-leaf","door-swing","window-pane","door","window"]

theorem plain_classNames : ∀ name ∈ classNames, Svg.Plain name.toList := by decide

/-- A step inside of a group: it ends no group and begins none. -/
structure Svg.Step.Held (s : Step) : Prop where
  mark : s.isMark = false
  tame : s.Tame

theorem held_of {s : Step} (hmark : s.isMark = false)
    (hclasses : ∀ name ∈ s.classes, name ∈ classNames) (hcommands : Svg.Plain s.commands)
    (hmore : s.more = [] ∨ ∃ color, s.more = Svg.attr "fill" (Svg.escape color)) : s.Held :=
  ⟨hmark,⟨fun name hname => plain_classNames name (hclasses name hname),hcommands,hmore⟩⟩

theorem held_line (segment : Segment Float) {name : String} (h : name ∈ classNames) :
    (Step.line segment [name]).Held :=
  held_of rfl (by simpa [Step.classes] using h) Svg.plain_nil (Or.inl rfl)

theorem held_text (words : List Char) (p : Point Float) {names : List String}
    (h : ∀ name ∈ names, name ∈ classNames) : (Step.text words p names).Held :=
  held_of rfl h Svg.plain_nil (Or.inl rfl)

theorem held_fills (shape : Composite Float) : ∀ s ∈ shape.fills, s.Held := by
  intro s hs
  obtain ⟨i,hi,rfl⟩ := List.mem_mapIdx.mp hs
  refine held_of rfl (fun name hname => ?_) Svg.plain_nil (Or.inl rfl)
  obtain rfl := List.mem_singleton.mp hname
  split <;> decide

theorem held_furnishing (f : PlacedFurnishing Float) : ∀ s ∈ f.steps, s.Held := by
  intro s hs
  rcases List.mem_cons.mp hs with rfl | hs
  · have hobject : ∀ name ∈ ["object"], name ∈ classNames := by decide
    cases f.color with
    | none => cases f.shape <;> exact held_of rfl hobject Svg.plain_nil (Or.inl rfl)
    | some color =>
      cases f.shape <;> exact held_of rfl hobject Svg.plain_nil (Or.inr ⟨color.toList,rfl⟩)
  · obtain ⟨t,_,rfl⟩ := Option.map_eq_some_iff.mp (Option.mem_toList.mp hs)
    exact held_text _ _ (by decide)

theorem plain_commands (a : SwingArc Float) : Svg.Plain a.commands := by
  have hflags : Svg.Plain " 0 0 ".toList := by decide
  have hsweep : Svg.isPlain (if a.sweep then '1' else '0') = true := by split <;> decide
  simp only [SwingArc.commands,List.cons_append,Svg.plain_cons,Svg.plain_append,Svg.plain_number,
    hflags,hsweep]
  decide

/-- Groups do not stand within groups. -/
theorem held_inner {layout : Layout Float} {config : Svg.Config} {g : Group}
    (h : g ∈ layout.groups config) : ∀ s ∈ g.inner, s.Held := by
  intro s hs
  rcases List.mem_append.mp h with h | h
  · obtain ⟨c,_,rfl⟩ := List.mem_map.mp h
    simp only [Layout.roomGroup,List.mem_append] at hs
    rcases hs with (hs | hs) | hs
    · rcases mem_steps_composite hs with hs | ⟨segment,name,hname,rfl⟩
      · exact held_fills c.2 s hs
      · have hnames : ["wall","shared-edge"] ⊆ classNames := by decide
        exact held_line segment (hnames hname)
    · obtain ⟨f,_,hs⟩ := List.mem_flatMap.mp hs
      exact held_furnishing f s hs
    · split at hs
      · obtain ⟨_,_,rfl⟩ := Option.map_eq_some_iff.mp (Option.mem_toList.mp hs)
        exact held_text _ _ (by decide)
      · cases hs
  · obtain ⟨o,_,rfl⟩ := List.mem_map.mp h
    rcases mem_inner_opening hs with rfl | ⟨_,rfl⟩ | ⟨a,rfl⟩ | ⟨_,rfl⟩
    · exact held_of rfl (by simp [Step.classes,classNames]) Svg.plain_nil (Or.inl rfl)
    · exact held_line _ (by decide)
    · exact held_of rfl (by simp [Step.classes,classNames]) (plain_commands a) (Or.inl rfl)
    · exact held_line _ (by decide)

theorem mem_classNames_of_mem_groups {layout : Layout Float} {config : Svg.Config} {g : Group}
    (h : g ∈ layout.groups config) : g.className ∈ classNames := by
  rcases List.mem_append.mp h with h | h
  · obtain ⟨c,_,rfl⟩ := List.mem_map.mp h
    simp [Layout.roomGroup,classNames]
  · obtain ⟨o,_,rfl⟩ := List.mem_map.mp h
    cases hkind : o.kind <;> simp [PlacedOpening.group,hkind,OpeningKind.name,classNames]

end Blueprint
