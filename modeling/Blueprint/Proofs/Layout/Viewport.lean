import Blueprint.Proofs.Geometry.Cover
import Blueprint.Proofs.Layout.Contents
import Blueprint.Proofs.Layout.Equations

/-!
The viewport of a layout, in exact coordinates. It is what covers all that is placed, with the same
margin on every side.
-/

namespace Blueprint

open Scalar

/-! ### What is placed -/

/-- The rectangles of the rooms of a layout, then those of its parts. -/
def Layout.placedRects {α : Type} (layout : Layout α) : List (Rect α) :=
  layout.rooms.map (·.rect) ++ layout.parts.map (·.rect)

/-- The shapes of a layout hold what is placed, and nothing else. -/
theorem rects_perm_placedRects {α : Type} [Scalar α] (plan : Plan α) (config : LayoutConfig α) :
    (plan.layout config).rects.Perm (plan.layout config).placedRects := by
  have h := (hosts_perm plan config).map Host.rect
  rw [← rects_layout_eq,List.map_append,List.map_map,List.map_map] at h
  exact h

section Sizes

variable {plan : Plan Rat} {config : LayoutConfig Rat} {rect : Rect Rat}

/-- What is placed has the size that it is declared with. -/
theorem exists_block_of_mem_placedRects (h : rect ∈ (plan.layout config).placedRects) :
    ∃ b ∈ plan.blocks, rect.width = b.width ∧ rect.height = b.depth := by
  have hequations : Equations plan (placePlan config plan.rooms).roomRects
      (placePlan config plan.rooms).partRects := by
    rcases placePlan_rects config plan.rooms with ⟨hrooms,hparts⟩ | ⟨hrooms,hparts⟩
    · rw [hrooms,hparts]
      exact equations_nil
    · rw [hrooms,hparts]
      exact equations_placeRooms
  rcases List.mem_append.mp h with h | h
  · obtain ⟨placed,hplaced,rfl⟩ := List.mem_map.mp h
    obtain ⟨room,hroom,_,_,hsits⟩ := hequations.room _ (List.mem_map.mpr ⟨placed,hplaced,rfl⟩)
    have hmem : room ∈ plan.rooms := List.mem_of_find?_eq_some hroom
    exact ⟨room.toBlock,List.mem_flatMap.mpr ⟨room,hmem,List.mem_cons_self⟩,hsits.width,
      hsits.height⟩
  · obtain ⟨placed,hplaced,rfl⟩ := List.mem_map.mp h
    obtain ⟨part,hpart,_,_,hsits⟩ := hequations.part _ (List.mem_map.mpr ⟨placed,hplaced,rfl⟩)
    obtain ⟨room,hroom,hpart⟩ := Option.bind_eq_some_iff.mp hpart
    have hmem : room ∈ plan.rooms := List.mem_of_find?_eq_some hroom
    have hin : part ∈ room.parts := List.mem_of_find?_eq_some hpart
    exact ⟨part.toBlock,List.mem_flatMap.mpr ⟨room,hmem,List.mem_cons_of_mem _
      (List.mem_map_of_mem hin)⟩,hsits.width,hsits.height⟩

theorem spread_of_mem_placedRects (hvalid : plan.isValid = true)
    (h : rect ∈ (plan.layout config).placedRects) : rect.Spread := by
  obtain ⟨b,hb,hwidth,hheight⟩ := exists_block_of_mem_placedRects h
  have hpositive : 0 < b.width ∧ 0 < b.depth := by
    simpa [positive,isFinite] using Plan.positive_block hvalid hb
  rw [Rect.spread_iff,hwidth,hheight]
  exact ⟨hpositive.1.le,hpositive.2.le⟩

end Sizes

/-! ### The viewport -/

/-- The viewport goes by the outermost lines only. -/
theorem viewport_eq {rects : List (Rect Rat)} {cover : Rect Rat} (h : Outermost rects cover)
    (config : LayoutConfig Rat) :
    viewport config rects = cover.inflate (max cover.width cover.height * config.padding) := by
  obtain ⟨cover',hcover',houter⟩ := exists_cover? h.ne_nil
  obtain rfl := houter.unique h
  rw [viewport,hcover']
  simp

theorem viewport_congr {rects rects' : List (Rect Rat)} (hmem : ∀ r, r ∈ rects ↔ r ∈ rects')
    (config : LayoutConfig Rat) : viewport config rects = viewport config rects' := by
  rw [viewport,viewport,cover?_congr hmem]

theorem bounds_layout_eq (plan : Plan Rat) (config : LayoutConfig Rat) :
    (plan.layout config).bounds = viewport config (plan.layout config).placedRects :=
  viewport_congr (fun _ => (rects_perm_placedRects plan config).mem_iff) config

/-- How far the viewport reaches beyond what is covered: a part of the larger extent. -/
def LayoutConfig.margin (config : LayoutConfig Rat) (cover : Rect Rat) : Rat :=
  config.padding * max (cover.right - cover.x) (cover.bottom - cover.y)

/-- The viewport of a layout is what covers all that is placed, with a margin. -/
structure Layout.TightlyViewed (layout : Layout Rat) (config : LayoutConfig Rat) : Prop where
  empty : layout.rooms = [] → layout.parts = [] → layout.bounds = config.emptyViewport
  /-- If anything is placed, it has an outermost line on every side. -/
  covered : layout.rooms ≠ [] ∨ layout.parts ≠ [] → ∃ cover, Outermost layout.placedRects cover
  /-- The sides of the viewport are beyond these lines by the margin. -/
  padded : ∀ cover, Outermost layout.placedRects cover →
    0 ≤ config.margin cover ∧ ∀ u, layout.bounds.low u = cover.low u - config.margin cover ∧
      layout.bounds.high u = cover.high u + config.margin cover
  /-- Every room and part is in the viewport, and no side of it is nearer than the margin. -/
  inside : ∀ cover, Outermost layout.placedRects cover → ∀ rect ∈ layout.placedRects,
    rect.region ⊆ layout.bounds.region ∧ ∀ u,
      config.margin cover ≤ rect.low u - layout.bounds.low u ∧
        config.margin cover ≤ layout.bounds.high u - rect.high u
  /-- It does not matter in which order the rectangles are joined. -/
  reordered : ∀ rects, rects.Perm layout.placedRects → viewport config rects = layout.bounds
  joined : ∀ a b : Rect Rat, a.Spread → b.Spread → a.Joined b

section Layout

variable {plan : Plan Rat} {config : LayoutConfig Rat} {cover : Rect Rat}

theorem bounds_of_outermost (h : Outermost (plan.layout config).placedRects cover) :
    (plan.layout config).bounds = cover.inflate (config.margin cover) := by
  rw [bounds_layout_eq,viewport_eq h,LayoutConfig.margin,mul_comm]
  simp [Rect.right,Rect.bottom]

theorem margin_nonneg (hvalid : plan.isValid = true) (hpadding : 0 ≤ config.padding)
    (h : Outermost (plan.layout config).placedRects cover) : 0 ≤ config.margin cover := by
  obtain ⟨rect,hrect⟩ := List.exists_mem_of_ne_nil _ h.ne_nil
  have hspread := h.spread hrect (spread_of_mem_placedRects hvalid hrect)
  exact mul_nonneg hpadding (le_max_of_le_left (sub_nonneg.mpr (hspread true)))

/-- The viewport of a valid plan is the tight box with its margin. -/
theorem layout_tightlyViewed (plan : Plan Rat) (config : LayoutConfig Rat)
    (hvalid : plan.isValid = true) (hpadding : 0 ≤ config.padding) :
    (plan.layout config).TightlyViewed config where
  empty hrooms hparts := by
    rw [bounds_layout_eq,Layout.placedRects,hrooms,hparts]
    rfl
  covered hplaced := by
    refine (exists_cover? fun hnil => ?_).imp fun _ h => h.2
    rw [Layout.placedRects,List.append_eq_nil_iff,List.map_eq_nil_iff,List.map_eq_nil_iff] at hnil
    exact hplaced.elim (absurd hnil.1) (absurd hnil.2)
  padded cover hcover := by
    refine ⟨margin_nonneg hvalid hpadding hcover,fun u => ?_⟩
    rw [bounds_of_outermost hcover,Rect.low_inflate,Rect.high_inflate]
    exact ⟨rfl,rfl⟩
  inside cover hcover rect hrect := by
    have hmargin := margin_nonneg hvalid hpadding hcover
    have hspread := spread_of_mem_placedRects hvalid hrect
    have hlines (u : Bool) : config.margin cover ≤ rect.low u - (plan.layout config).bounds.low u ∧
        config.margin cover ≤ (plan.layout config).bounds.high u - rect.high u := by
      obtain ⟨hlow,hhigh⟩ := hcover.lines hrect u
      rw [bounds_of_outermost hcover,Rect.low_inflate,Rect.high_inflate]
      exact ⟨by linarith,by linarith⟩
    refine ⟨(Rect.region_subset_iff hspread).mpr fun u => ?_,hlines⟩
    obtain ⟨hlow,hhigh⟩ := hlines u
    exact ⟨by linarith,by linarith⟩
  reordered rects hperm := by
    rw [bounds_layout_eq]
    exact viewport_congr (fun _ => hperm.mem_iff) config
  joined _ _ ha hb := ha.joined hb

end Layout

/-- A hall with a bay to its left, and a shed that stands apart. -/
def outbuildings : Plan Rat where
  rooms := [{ unitRoom "shed" "hall" [] with offset := (3,-1) },
    unitRoom "hall" originName [{ unitPart "bay" parentName with offset := (-1,1 / 2) }]]
  doors := []
  windows := []

theorem layout_tightlyViewed_outbuildings :
    outbuildings.isValid = true ∧ 0 ≤ (LayoutConfig.standard : LayoutConfig Rat).padding ∧
    (outbuildings.layout .standard).placedRects = [⟨3,-1,1,1⟩,⟨0,0,1,1⟩,⟨-1,1 / 2,1,1⟩] ∧
    (outbuildings.layout .standard).bounds = ⟨-3 / 2,-3 / 2,6,7 / 2⟩ ∧
    (outbuildings.layout .standard).TightlyViewed .standard :=
  ⟨by decide +kernel,by decide +kernel,by decide +kernel,by decide +kernel,
    layout_tightlyViewed outbuildings .standard (by decide +kernel) (by decide +kernel)⟩

end Blueprint
