import Blueprint.Proofs.Geometry.Motion
import Blueprint.Proofs.Pinning.Isolation

/-!
Pinning the same blocks to other places. As long as every block keeps its id and its attachment, the
same blocks are placed and the rest fails alike; the rectangles alone may differ.
-/

namespace Blueprint
namespace Pinning

variable {α : Type}

/-- Changes that leave ids and attachments alone. -/
structure KeepsAttachment (f : Block α → Block α) : Prop where
  id : ∀ b, (f b).id = b.id
  attachTo : ∀ b, (f b).attachTo = b.attachTo

/-- The same declarations, where the first ones are changed but for ids and attachments. -/
structure Redrawn (f : Block α → Block α) (ns' : Namespace α) (blocks' : List (Block α))
    (ns : Namespace α) (blocks : List (Block α)) : Prop where
  keeps : KeepsAttachment f
  reserved : ns'.reserved = ns.reserved
  ids : ids blocks' = ids blocks
  table : firstDeclared blocks' = (firstDeclared blocks).map f

theorem Redrawn.refl {ns' ns : Namespace α} (h : ns'.reserved = ns.reserved)
    (blocks : List (Block α)) : Redrawn id ns' blocks ns blocks where
  keeps := ⟨fun _ => rfl,fun _ => rfl⟩
  reserved := h
  ids := rfl
  table := by simp

variable {f : Block α → Block α} {ns' ns : Namespace α} {table : List (Block α)}

/-! ### Tables -/

namespace KeepsAttachment

theorem ids_map (h : KeepsAttachment f) (table : List (Block α)) :
    ids (table.map f) = ids table := by
  simp [ids,h.id]

theorem declared?_map (h : KeepsAttachment f) (table : List (Block α)) (id : String) :
    declared? (table.map f) id = (declared? table id).map f := by
  rw [declared?,declared?,List.find?_map]
  simp only [Function.comp_def,h.id]

theorem closedIn (h : KeepsAttachment f) (hr : ns'.reserved = ns.reserved)
    (table : List (Block α)) : ClosedIn ns' (table.map f) ns table where
  reserved id _ := by
    simp only [AtReserved,h.declared?_map,Option.map_eq_some_iff,hr]
    constructor
    · rintro ⟨_,⟨b,hb,rfl⟩,ht⟩
      exact ⟨b,hb,h.attachTo b ▸ ht⟩
    · rintro ⟨b,hb,ht⟩
      exact ⟨f b,⟨b,hb,rfl⟩,(h.attachTo b).symm ▸ ht⟩
  attached id _ target := by
    simp only [AttachedTo,h.declared?_map,Option.map_eq_some_iff,hr]
    constructor
    · rintro ⟨_,⟨b,hb,rfl⟩,ht⟩
      exact ⟨b,hb,h.attachTo b ▸ ht⟩
    · rintro ⟨b,hb,ht⟩
      exact ⟨f b,⟨b,hb,rfl⟩,(h.attachTo b).symm ▸ ht⟩
  closed _ _ target _ ht := by rwa [h.ids_map]

theorem sameOrder (h : KeepsAttachment f) (table : List (Block α)) :
    SameOrder (table.map f) table := by
  intro s _ t _
  rw [position,position,h.ids_map]
  exact Iff.rfl

variable [Scalar α]

theorem stranded_map (h : KeepsAttachment f) (hr : ns'.reserved = ns.reserved)
    (table : List (Block α)) : stranded ns' (table.map f) = (stranded ns table).map f := by
  rw [stranded,stranded,List.filter_map]
  refine congrArg (List.map f) (List.filter_congr fun b hb => ?_)
  have hb' : b.id ∈ ids (table.map f) := h.ids_map table ▸ mem_ids_of_mem hb
  simp [h.id,(h.closedIn hr table).grounded_iff hb']

theorem cutOff_map (h : KeepsAttachment f) (hr : ns'.reserved = ns.reserved)
    (table : List (Block α)) (maxPasses : Nat) :
    cutOff ns' (table.map f) maxPasses = (cutOff ns table maxPasses).map f := by
  rw [cutOff,cutOff,List.filter_map]
  refine congrArg (List.map f) (List.filter_congr fun b hb => ?_)
  have hb' : b.id ∈ ids (table.map f) := h.ids_map table ▸ mem_ids_of_mem hb
  have hclosed := h.closedIn hr table
  simp [h.id,hclosed.grounded_iff hb',hclosed.rankedWithin_iff (h.sameOrder table) hb']

theorem cause_map (h : KeepsAttachment f) (hr : ns'.reserved = ns.reserved)
    (hd : (ids table).Nodup) (qualify : String → String) {b : Block α}
    (hb : b ∈ stranded ns table) :
    cause ns' (table.map f) qualify (f b) = cause ns table qualify b := by
  have hatt := attachedTo_of_stranded hd hb
  have hclosed := h.closedIn hr table
  refine hclosed.cause_eq (h.sameOrder table) (h.id b) (by rw [h.attachTo]) ?_
  rw [h.id,h.attachTo]
  exact (hclosed.attached b.id (h.ids_map table ▸ hatt.mem_ids) _).mpr hatt

end KeepsAttachment

/-! ### Outcomes -/

theorem laterDeclared_congr {blocks' blocks : List (Block α)} (h : ids blocks' = ids blocks) :
    laterDeclared blocks' = laterDeclared blocks := by
  have hids (bs : List (Block α)) : laterDeclared bs = ((ids bs).foldl (fun noted id =>
      if noted.1.contains id then (noted.1,noted.2 ++ [id]) else (id :: noted.1,noted.2))
        (([],[]) : List String × List String)).2 := by
    rw [ids,List.foldl_map]
    rfl
  rw [hids,hids,h]

namespace Redrawn

variable [Scalar α] {blocks' blocks : List (Block α)}

theorem keys_eq (h : Redrawn f ns' blocks' ns blocks) (maxPasses : Nat)
    (qualify : String → String) : (pin ns' maxPasses qualify blocks').rects.map (·.1) =
      (pin ns maxPasses qualify blocks).rects.map (·.1) := by
  rw [keys_pin,keys_pin,h.table,h.keeps.ids_map]
  refine List.filter_congr fun id hid => ?_
  have hid' : id ∈ Pinning.ids ((firstDeclared blocks).map f) := (h.keeps.ids_map _).symm ▸ hid
  rw [decide_eq_decide]
  exact (h.keeps.closedIn h.reserved _).rankedWithin_iff (h.keeps.sameOrder _) hid'

/-- Blocks that keep their attachments fail alike. -/
theorem failures_eq (h : Redrawn f ns' blocks' ns blocks) (maxPasses : Nat)
    (qualify : String → String) : (pin ns' maxPasses qualify blocks').failures =
      (pin ns maxPasses qualify blocks).failures := by
  have hd := nodup_ids_firstDeclared blocks
  have hcauses : causes ns' qualify blocks' = causes ns qualify blocks := by
    rw [causes,causes,h.table,h.keeps.stranded_map h.reserved,List.filterMap_map]
    exact List.filterMap_congr fun b hb => h.keeps.cause_map h.reserved hd qualify hb
  have hcut := h.keeps.cutOff_map h.reserved (firstDeclared blocks) maxPasses
  have hlate : maxPasses < lastRank ns' (firstDeclared blocks') ↔
      maxPasses < lastRank ns (firstDeclared blocks) := by
    rw [← Nat.not_le,← Nat.not_le,← cutOff_eq_nil_iff,← cutOff_eq_nil_iff,h.table,hcut,
      List.map_eq_nil_iff]
  have hover : overrun ns' qualify maxPasses blocks' = overrun ns qualify maxPasses blocks := by
    simp only [overrun,hlate]
    rw [h.table,hcut,List.map_map]
    simp only [Function.comp_def,h.keeps.id]
  rw [failures_pin_eq,failures_pin_eq,laterDeclared_congr h.ids,hcauses,hover]

end Redrawn

/-! ### Rectangles over exact coordinates -/

/-- If what the blocks are attached to is moved, and they move along, all rectangles are moved. -/
theorem Redrawn.rects_eq {f : Block Rat → Block Rat} {ns' ns : Namespace Rat}
    {blocks' blocks : List (Block Rat)} (h : Redrawn f ns' blocks' ns blocks)
    (shift : String → Rat × Rat)
    (hreserved : ∀ b, AtReserved ns (firstDeclared blocks) b.id →
      placeAt (f b) (ns'.anchorRect.corner b.attachTo.corner) =
        (placeAt b (ns.anchorRect.corner b.attachTo.corner)).moveBy (shift b.id))
    (hattached : ∀ b, Grounded ns (firstDeclared blocks) b.id →
      AttachedTo ns (firstDeclared blocks) b.id b.attachTo.target → ∀ target : Rect Rat,
        placeAt (f b) ((target.moveBy (shift b.attachTo.target)).corner b.attachTo.corner) =
          (placeAt b (target.corner b.attachTo.corner)).moveBy (shift b.id))
    (maxPasses : Nat) (qualify : String → String) :
    (pin ns' maxPasses qualify blocks').rects =
      (pin ns maxPasses qualify blocks).rects.map fun p => (p.1,p.2.moveBy (shift p.1)) := by
  -- the moved rectangles solve the attachments of the redrawn blocks, and nothing else does
  have hsolves : Solves ns' blocks' fun id rect => ∃ before,
      (id,before) ∈ (pin ns maxPasses qualify blocks).rects ∧ rect = before.moveBy (shift id) := by
    rintro id _ ⟨before,hbefore,rfl⟩
    have hg : Grounded ns (firstDeclared blocks) id :=
      (mem_keys_pin.mp (List.mem_map.mpr ⟨_,hbefore,rfl⟩)).grounded
    obtain ⟨b,hb,target,hstands,rfl⟩ := solves_pin id before hbefore
    rw [← declared?_firstDeclared] at hb
    have hb' : declared? blocks' id = some (f b) := by
      rw [← declared?_firstDeclared,h.table,h.keeps.declared?_map,hb]
      rfl
    obtain rfl := id_of_declared? hb
    refine ⟨f b,hb',?_⟩
    rw [h.keeps.attachTo b]
    rcases hstands with ⟨hr,rfl⟩ | ⟨hne,hgiven⟩
    · exact ⟨ns'.anchorRect,Or.inl ⟨hr.trans h.reserved.symm,rfl⟩,(hreserved b ⟨b,hb,hr⟩).symm⟩
    · exact ⟨target.moveBy (shift b.attachTo.target),Or.inr ⟨h.reserved ▸ hne,target,hgiven,rfl⟩,
        (hattached b hg ⟨b,hb,hne,rfl⟩ target).symm⟩
  have hkeys := h.keys_eq maxPasses qualify
  have hsub : ∀ p ∈ (pin ns maxPasses qualify blocks).rects.map
      (fun p => (p.1,p.2.moveBy (shift p.1))), p ∈ (pin ns' maxPasses qualify blocks').rects := by
    intro p hp
    obtain ⟨⟨id,before⟩,hbefore,rfl⟩ := List.mem_map.mp hp
    refine hsolves.mem_pin ?_ ⟨before,hbefore,rfl⟩
    rintro id _ ⟨before,hbefore,rfl⟩
    exact hkeys ▸ List.mem_map.mpr ⟨_,hbefore,rfl⟩
  refine (eq_of_subset_of_keys (nodup_keys_pin ns' maxPasses qualify blocks') ?_ hsub).symm
  rw [hkeys,List.map_map]
  rfl

end Pinning
end Blueprint
