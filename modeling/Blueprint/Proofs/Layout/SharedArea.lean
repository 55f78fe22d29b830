import Blueprint.Proofs.Decimal.WholeText
import Blueprint.Proofs.Layout.Owner
import Blueprint.Proofs.Layout.Viewport
import Blueprint.Proofs.Layout.WallSpace

/-!
The areas that members of one shape share, in exact coordinates. The rectangles of a shape and the
names of its members come from two lists, which run in step; so a warning names the two members
whose rectangles overlap, and tells the extents of the area that these have in common.
-/

namespace Blueprint

open Scalar

/-! ### Common areas -/

namespace Rect

/-- The area that two rectangles have in common. An extent is negative where they are apart. -/
def common (a b : Rect Rat) : Rect Rat :=
  ⟨max a.x b.x,max a.y b.y,min a.right b.right - max a.x b.x,min a.bottom b.bottom - max a.y b.y⟩

theorem region_common (a b : Rect Rat) : (a.common b).region = a.region ∩ b.region := by
  have hright : (a.common b).right = min a.right b.right := add_sub_cancel _ _
  have hbottom : (a.common b).bottom = min a.bottom b.bottom := add_sub_cancel _ _
  rw [region,hright,hbottom,region,region,Set.prod_inter_prod,Set.Icc_inter_Icc,Set.Icc_inter_Icc]
  rfl

/-- The common area is wider and taller than the tolerance. -/
def Overlaps (a b : Rect Rat) : Prop :=
  tolerance < (a.common b).width ∧ tolerance < (a.common b).height

instance (a b : Rect Rat) : Decidable (a.Overlaps b) := inferInstanceAs (Decidable (_ ∧ _))

/-- Four comparisons tell an overlap, as long as no rectangle is itself within the tolerance. -/
theorem intersects_iff_overlaps {a b : Rect Rat} (ha : tolerance < a.width ∧ tolerance < a.height)
    (hb : tolerance < b.width ∧ tolerance < b.height) :
    a.intersects b = true ↔ a.Overlaps b := by
  have hspan {lo₁ hi₁ lo₂ hi₂ : Rat} (h₁ : tolerance < hi₁ - lo₁) (h₂ : tolerance < hi₂ - lo₂) :
      tolerance < min hi₁ hi₂ - max lo₁ lo₂ ↔
        lo₁ < hi₂ - tolerance ∧ lo₂ + tolerance < hi₁ := by
    rw [lt_sub_iff_add_lt',lt_min_iff,← lt_sub_iff_add_lt,← lt_sub_iff_add_lt,max_lt_iff,max_lt_iff]
    constructor
    · rintro ⟨⟨_,h⟩,h',_⟩
      exact ⟨h',by linarith⟩
    · rintro ⟨h,h'⟩
      exact ⟨⟨by linarith,by linarith⟩,h,by linarith⟩
  have hsize {r : Rect Rat} (h : tolerance < r.width ∧ tolerance < r.height) (u : Bool) :
      tolerance < r.high u - r.low u := lt_high_sub_low h u
  rw [intersects_iff,forall_upright_iff true,← hspan (hsize ha true) (hsize hb true),
    ← hspan (hsize ha (!true)) (hsize hb (!true))]
  rfl

end Rect

/-! ### Lists in step -/

/-- Names that are looked up by place are those of the other list, place by place. -/
theorem mapIdx_getD_eq_zip {β : Type} {names : List String} {l : List β}
    (h : l.length = names.length) (unknown : String) :
    l.mapIdx (fun i b => (names[i]?.getD unknown,b)) = names.zip l := by
  refine List.ext_getElem (by simp [h]) fun i hi _ => ?_
  have hname : i < names.length := by
    rw [List.length_mapIdx] at hi
    exact h ▸ hi
  simp [hname]

/-- What passes a test, with something made of each, collected item by item. -/
theorem flatMap_ite_eq_map_filter {β γ : Type} (test : β → Prop) [DecidablePred test] (f : β → γ)
    (l : List β) : (l.flatMap fun b => if test b then [f b] else []) = (l.filter test).map f := by
  induction l with
  | nil => rfl
  | cons b l ih => by_cases hb : test b <;> simp [hb,ih]

theorem pairsOf_map {β γ : Type} (f : β → γ) (l : List β) :
    pairsOf (l.map f) = (pairsOf l).map fun p => (f p.1,f p.2) := by
  induction l with
  | nil => rfl
  | cons b l ih =>
    rw [List.map_cons,pairsOf_cons,pairsOf_cons,List.map_append,ih,List.map_map,List.map_map]
    rfl

/-! ### Members of a shape -/

section Members

variable {α : Type} [Scalar α] (plan : Plan α) (config : LayoutConfig α)

/-- The members of the shape of a room are the room and its parts, by their names. -/
theorem members_layout (room : PlacedRoom α) :
    (plan.layout config).members room.id (compositeOf (plan.layout config).parts room) =
      ((plan.layout config).hostsIn room).map fun host => (host.text,host.rect) := by
  have hnames : room.id :: (partsOf (plan.layout config).parts room.id).map (·.key.text) =
      ((plan.layout config).hostsIn room).map Host.text := by
    simp [Layout.hostsIn,Host.text,Function.comp_def]
  have hrects : (compositeOf (plan.layout config).parts room).rectangles =
      ((plan.layout config).hostsIn room).map Host.rect := by
    simp [compositeOf,Composite.ofRects,Layout.hostsIn,Host.rect,Function.comp_def]
  rw [Layout.members,hnames,hrects,mapIdx_getD_eq_zip (by simp),List.zip_map']

/-- The warnings about shapes, pair by pair of their members. -/
theorem flatMap_composites_eq : ((plan.layout config).composites.flatMap fun (room,shape) =>
    eachPair lintMembers ((plan.layout config).members room shape)) =
      (plan.layout config).rooms.flatMap fun room =>
        (pairsOf ((plan.layout config).hostsIn room)).flatMap fun p =>
          lintMembers (p.1.text,p.1.rect) (p.2.text,p.2.rect) := by
  have hcomposites : (plan.layout config).composites = (plan.layout config).rooms.map fun room =>
      (room.id,compositeOf (plan.layout config).parts room) := rfl
  rw [hcomposites,List.flatMap_map]
  refine List.flatMap_congr fun room _ => ?_
  dsimp only
  rw [members_layout,eachPair_eq_flatMap,pairsOf_map,List.flatMap_map]

/-- The members of one shape have names of their own, whatever the ids. -/
theorem nodup_hostsIn_text (room : PlacedRoom α) :
    (((plan.layout config).hostsIn room).map Host.text).Nodup := by
  have hparts : ∀ part ∈ partsOf (plan.layout config).parts room.id, part.key.room = room.id :=
    fun part hpart => beq_iff_eq.mp (List.mem_filter.mp hpart).2
  rw [Layout.hostsIn,List.map_cons,List.map_map,List.nodup_cons]
  constructor
  · intro hroom
    obtain ⟨part,hpart,htext⟩ := List.mem_map.mp hroom
    have hlength := congrArg (fun name : String => name.toList.length) htext
    simp only [Function.comp_apply,Host.text,PartKey.toList_text,hparts part hpart,
      List.length_append,List.length_cons] at hlength
    omega
  · have hkeys : ((partsOf (plan.layout config).parts room.id).map (·.key)).Nodup :=
      (nodup_keys_layout plan config).sublist (List.filter_sublist.map _)
    refine List.Nodup.map_on (fun part hpart part' hpart' htext => ?_) hkeys.of_map
    refine List.inj_on_of_nodup_map hkeys hpart hpart' ?_
    have hroom : part.key.room = part'.key.room := (hparts part hpart).trans (hparts part' hpart').symm
    simp only [Function.comp_apply,Host.text,PartKey.text,hroom,String.append_right_inj] at htext
    exact congrArg₂ PartKey.mk hroom htext

end Members

/-! ### Warnings -/

/-- A warning is about members of a shape or about a wall. -/
theorem Lint.category_eq_partOverlap_iff {α : Type} {warning : Lint α} :
    warning.category = "part-overlap" ↔ warning.wallFault? = none := by
  cases warning <;> simp [category,wallFault?]

/-- The warnings of a layout that are about members of shapes. -/
def Layout.areaLints {α : Type} [Scalar α] (layout : Layout α) : List (Lint α) :=
  layout.lint.filter (·.category == "part-overlap")

theorem Layout.areaLints_eq (layout : Layout Rat) : layout.areaLints =
    layout.composites.flatMap fun (room,shape) =>
      eachPair lintMembers (layout.members room shape) := by
  have hends : (layout.openings.flatMap lintEnds).filter (·.category == "part-overlap") = [] := by
    refine List.filter_eq_nil_iff.mpr fun warning h hcategory => ?_
    obtain ⟨o,_,h⟩ := List.mem_flatMap.mp h
    have hnone := Lint.category_eq_partOverlap_iff.mp (beq_iff_eq.mp hcategory)
    rcases wallFault?_of_mem_lintEnds h with hfault | hfault <;> simp [hfault] at hnone
  have hpairs : (eachPair lintPair layout.openings).filter (·.category == "part-overlap") = [] := by
    rw [eachPair_eq_flatMap]
    refine List.filter_eq_nil_iff.mpr fun warning h hcategory => ?_
    obtain ⟨p,_,h⟩ := List.mem_flatMap.mp h
    have hnone := Lint.category_eq_partOverlap_iff.mp (beq_iff_eq.mp hcategory)
    simp [wallFault?_of_mem_lintPair h] at hnone
  rw [areaLints,lint,List.filter_append,List.filter_append,hends,hpairs,List.nil_append,
    List.nil_append]
  refine List.filter_eq_self.mpr fun warning h => beq_iff_eq.mpr ?_
  obtain ⟨⟨room,shape⟩,_,h⟩ := List.mem_flatMap.mp h
  simp only [eachPair_eq_flatMap] at h
  obtain ⟨p,_,h⟩ := List.mem_flatMap.mp h
  exact Lint.category_eq_partOverlap_iff.mpr (wallFault?_of_mem_lintMembers h)

/-- The warning that two members share an area. -/
def areaLint (a b : Host Rat) : Lint Rat :=
  .sharedArea a.text b.text (a.rect.common b.rect).width (a.rect.common b.rect).height

theorem lintMembers_eq {a b : Host Rat} (ha : tolerance < a.rect.width ∧ tolerance < a.rect.height)
    (hb : tolerance < b.rect.width ∧ tolerance < b.rect.height) :
    lintMembers (a.text,a.rect) (b.text,b.rect) =
      if a.rect.Overlaps b.rect then [areaLint a b] else [] := by
  simp only [lintMembers,Rect.intersects_iff_overlaps ha hb,least_rat,greatest_rat]
  rfl

/-- The warnings about the members of shapes tell how their rectangles overlap. -/
structure Layout.OverlapsTold (layout : Layout Rat) : Prop where
  /-- A shape holds the rectangle of its room and those of its parts, in the order of members. -/
  members : layout.composites.map (fun c => (c.1,c.2.rectangles)) =
    layout.rooms.map fun room => (room.id,(layout.hostsIn room).map Host.rect)
  /-- There is one warning for each pair of members of one shape that overlap, with their names in
  order and the extents of their common area, and there is no other warning. -/
  told : layout.areaLints = layout.rooms.flatMap fun room =>
    ((pairsOf (layout.hostsIn room)).filter fun p => p.1.rect.Overlaps p.2.rect).map fun p =>
      areaLint p.1 p.2
  common : ∀ a b : Rect Rat, (a.common b).region = a.region ∩ b.region
  /-- Members of one shape are told apart by their names. -/
  names : ∀ room ∈ layout.rooms, ((layout.hostsIn room).map Host.text).Nodup
  /-- What is written for an unknown name is written only as the id of a room. -/
  known : ∀ a b width height, .sharedArea a b width height ∈ layout.areaLints →
    a = "?" ∨ b = "?" → ∃ room ∈ layout.rooms, room.id = "?"
  /-- Extents are rounded to whole units where a warning is written, and not before. -/
  written : ∀ (a b : String) (width height : Float) (w h : Decimal.Dyadic),
    Decimal.Reading.ofFloat width = .finite w → Decimal.Reading.ofFloat height = .finite h →
      ∃ m n, w.RoundsTo m ∧ h.RoundsTo n ∧
        (Lint.sharedArea a b width height).message =
          "\"" ++ a ++ "\" and \"" ++ b ++ "\" overlap by " ++
            String.ofList (Decimal.signed w.negative (Decimal.digitChars m)) ++ "x" ++
            String.ofList (Decimal.signed h.negative (Decimal.digitChars n))

section Layout

variable {plan : Plan Rat} {config : LayoutConfig Rat}

/-- The members of a shape are of the sizes that the plan gives. -/
theorem size_of_mem_hostsIn (hsize : ∀ b ∈ plan.blocks, tolerance < b.width ∧ tolerance < b.depth)
    {room : PlacedRoom Rat} (hroom : room ∈ (plan.layout config).rooms) {host : Host Rat}
    (hhost : host ∈ (plan.layout config).hostsIn room) :
    tolerance < host.rect.width ∧ tolerance < host.rect.height := by
  have hin : host.rect ∈ (plan.layout config).rects := by
    rw [rects_layout_eq,Layout.hosts_eq]
    exact List.mem_map_of_mem (List.mem_flatMap.mpr ⟨room,hroom,hhost⟩)
  obtain ⟨b,hb,hwidth,hheight⟩ :=
    exists_block_of_mem_placedRects ((rects_perm_placedRects plan config).mem_iff.mp hin)
  rw [hwidth,hheight]
  exact hsize b hb

theorem areaLints_layout (hsize : ∀ b ∈ plan.blocks, tolerance < b.width ∧ tolerance < b.depth) :
    (plan.layout config).areaLints = (plan.layout config).rooms.flatMap fun room =>
      ((pairsOf ((plan.layout config).hostsIn room)).filter fun p =>
        p.1.rect.Overlaps p.2.rect).map fun p => areaLint p.1 p.2 := by
  rw [Layout.areaLints_eq,flatMap_composites_eq]
  refine List.flatMap_congr fun room hroom => ?_
  rw [← flatMap_ite_eq_map_filter]
  refine List.flatMap_congr fun p hp => ?_
  have hmem := (mem_pairsOf_iff.mp hp).subset
  exact lintMembers_eq (size_of_mem_hostsIn hsize hroom (hmem (by simp)))
    (size_of_mem_hostsIn hsize hroom (hmem (by simp)))

/-- Only a room can go by a name of one character. -/
theorem exists_room_of_text {room : PlacedRoom Rat} {host : Host Rat}
    (hhost : host ∈ (plan.layout config).hostsIn room) (htext : host.text = "?") :
    room.id = "?" := by
  rcases List.mem_cons.mp hhost with rfl | hhost
  · exact htext
  · obtain ⟨part,_,rfl⟩ := List.mem_map.mp hhost
    have hdot : '.' ∈ "?".toList := by
      rw [← htext,Host.text,PartKey.toList_text]
      simp
    exact absurd hdot (by decide)

/-- Members that overlap are told of in every plan whose rooms and parts are not within the
tolerance. -/
theorem overlaps_told (plan : Plan Rat) (config : LayoutConfig Rat)
    (hsize : ∀ b ∈ plan.blocks, tolerance < b.width ∧ tolerance < b.depth) :
    (plan.layout config).OverlapsTold where
  members := by
    simp [Plan.layout,compositeOf,Composite.ofRects,Layout.hostsIn,Host.rect,Function.comp_def]
  told := areaLints_layout hsize
  common := Rect.region_common
  names room _ := nodup_hostsIn_text plan config room
  known a b width height hwarning hname := by
    rw [areaLints_layout hsize] at hwarning
    obtain ⟨room,hroom,hwarning⟩ := List.mem_flatMap.mp hwarning
    obtain ⟨p,hp,heq⟩ := List.mem_map.mp hwarning
    have hmem := (mem_pairsOf_iff.mp (List.mem_filter.mp hp).1).subset
    cases heq
    exact ⟨room,hroom,hname.elim (exists_room_of_text (hmem (by simp)))
      (exists_room_of_text (hmem (by simp)))⟩
  written a b width height w h hw hh := by
    obtain ⟨m,hm,hwidth⟩ := Decimal.exists_fixed_zero hw
    obtain ⟨n,hn,hheight⟩ := Decimal.exists_fixed_zero hh
    refine ⟨m,n,hm,hn,?_⟩
    rw [Lint.message,hwidth,hheight]
    simp [String.append_assoc,toString]

end Layout

/-- A hall with a closet in its corner and a bay that overlaps both, next to a part that comes twice
and one that hangs on nothing. -/
def nestedParts : Plan Rat where
  rooms := [unitRoom "hall" originName [unitPart "lost" "nowhere",
    { unitPart "closet" parentName with width := 1 / 2,depth := 1 / 2 },unitPart "closet" parentName,
    { unitPart "bay" "closet" with offset := (1 / 4,1 / 4) }],unitRoom "yard" "hall" []]
  doors := []
  windows := []

theorem overlaps_told_nestedParts :
    (∀ b ∈ nestedParts.blocks, tolerance < b.width ∧ tolerance < b.depth) ∧
    (nestedParts.layout .standard).areaLints =
      [.sharedArea "hall" "hall.closet" (1 / 2) (1 / 2),
        .sharedArea "hall" "hall.bay" (3 / 4) (3 / 4),
        .sharedArea "hall.closet" "hall.bay" (1 / 4) (1 / 4)] ∧
    (nestedParts.layout .standard).OverlapsTold :=
  ⟨by decide +kernel,by decide +kernel,overlaps_told nestedParts .standard (by decide +kernel)⟩

end Blueprint
