import Blueprint.Proofs.Pinning.Reordering

/-!
The bound on the passes. Under a larger bound the same blocks find the same places, and others find
theirs as well; what is told of the blocks is the same, apart from those cut off.
-/

namespace Blueprint
namespace Pinning

variable {α : Type} {ns : Namespace α} {table blocks : List (Block α)} {most most' : Nat}
  {qualify : String → String}

theorem RankedWithin.mono {id : String} (h : RankedWithin ns table most id) (hle : most ≤ most') :
    RankedWithin ns table most' id := by
  obtain ⟨n,hn,hid⟩ := h
  exact ⟨n,hn.trans hle,hid⟩

/-- There are as many first declarations as different ids. -/
theorem length_firstDeclared (blocks : List (Block α)) :
    (firstDeclared blocks).length = (ids blocks).toFinset.card := by
  have hsame : (ids blocks).toFinset = (ids (firstDeclared blocks)).toFinset := by
    ext id
    simp
  rw [hsame,List.toFinset_card_of_nodup (nodup_ids_firstDeclared blocks),length_ids]

variable [Scalar α]

/-- A place found under a bound is found under a larger one: the places found first solve the
attachments, and have their ids among those found later. -/
theorem mem_rects_pin_of_le (h : most ≤ most') {p : String × Rect α}
    (hp : p ∈ (pin ns most qualify blocks).rects) : p ∈ (pin ns most' qualify blocks).rects := by
  have hsolves : Solves ns blocks fun id rect => (id,rect) ∈ (pin ns most qualify blocks).rects :=
    solves_pin
  refine hsolves.mem_pin (fun id rect hmem => ?_) hp
  have hkey : id ∈ (pin ns most qualify blocks).rects.map (·.1) := List.mem_map.mpr ⟨_,hmem,rfl⟩
  exact mem_keys_pin.mpr ((mem_keys_pin.mp hkey).mono h)

theorem rects_pin_sublist (h : most ≤ most') :
    (pin ns most qualify blocks).rects.Sublist (pin ns most' qualify blocks).rects := by
  let within (id : String) : Bool := RankedWithin ns (firstDeclared blocks) most id
  have hkeys : (pin ns most qualify blocks).rects.map (·.1) =
      ((pin ns most' qualify blocks).rects.filter fun p => within p.1).map (·.1) := by
    have hfilter : ((pin ns most' qualify blocks).rects.filter fun p => within p.1).map (·.1) =
        ((pin ns most' qualify blocks).rects.map (·.1)).filter within := by
      rw [List.filter_map]
      rfl
    rw [hfilter,keys_pin,keys_pin,List.filter_filter]
    refine List.filter_congr fun id _ => ?_
    have himp : RankedWithin ns (firstDeclared blocks) most id →
        RankedWithin ns (firstDeclared blocks) most' id := fun hid => hid.mono h
    rw [Bool.eq_iff_iff]
    simpa [within] using himp
  have hsame : (pin ns most qualify blocks).rects =
      (pin ns most' qualify blocks).rects.filter fun p => within p.1 := by
    have hd := nodup_keys_pin ns most qualify blocks
    refine eq_of_subset_of_keys (hkeys ▸ hd) hkeys fun p hp => ?_
    have hkey : p.1 ∈ (pin ns most qualify blocks).rects.map (·.1) := List.mem_map.mpr ⟨p,hp,rfl⟩
    refine List.mem_filter.mpr ⟨mem_rects_pin_of_le h hp,?_⟩
    simpa [within] using mem_keys_pin.mp hkey
  rw [hsame]
  exact List.filter_sublist

theorem lookup_pin_of_le (h : most ≤ most') {id : String} {rect : Rect α}
    (hid : (pin ns most qualify blocks).rects.lookup id = some rect) :
    (pin ns most' qualify blocks).rects.lookup id = some rect :=
  mem_pin_iff.mpr (mem_rects_pin_of_le h (mem_pin_iff.mp hid))

variable (ns most qualify blocks)

/-- What is told of the blocks that no further pass would place, and of later declarations, does not
hang on the bound. -/
theorem filter_not_isOutOfPasses_failures_pin :
    (pin ns most qualify blocks).failures.filter (fun f => !f.isOutOfPasses) =
      (laterDeclared blocks).map (fun id => .duplicate (qualify id)) ++
        causes ns qualify blocks := by
  have hlater : ((laterDeclared blocks).map fun id => Failure.duplicate (qualify id)).filter
      (fun f => !f.isOutOfPasses) =
        (laterDeclared blocks).map fun id => .duplicate (qualify id) := by
    simp [Failure.isOutOfPasses]
  have hcauses : (causes ns qualify blocks).filter (fun f => !f.isOutOfPasses) =
      causes ns qualify blocks :=
    List.filter_eq_self.mpr fun f hf => by simp [isOutOfPasses_of_mem_causes hf]
  have hover : (overrun ns qualify most blocks).filter (fun f => !f.isOutOfPasses) = [] :=
    List.filter_eq_nil_iff.mpr fun f hf => by
      obtain ⟨_,rfl⟩ := mem_overrun.mp hf
      simp [Failure.isOutOfPasses]
  rw [failures_pin_eq,List.filter_append,List.filter_append,hlater,hcauses,hover,List.append_nil]

theorem filter_isOutOfPasses_failures_pin :
    (pin ns most qualify blocks).failures.filter Failure.isOutOfPasses =
      overrun ns qualify most blocks := by
  have hcauses : (causes ns qualify blocks).filter Failure.isOutOfPasses = [] :=
    List.filter_eq_nil_iff.mpr fun f hf => by simp [isOutOfPasses_of_mem_causes hf]
  have hover : (overrun ns qualify most blocks).filter Failure.isOutOfPasses =
      overrun ns qualify most blocks :=
    List.filter_eq_self.mpr fun f hf => by
      obtain ⟨_,rfl⟩ := mem_overrun.mp hf
      rfl
  rw [failures_pin_eq,List.filter_append,List.filter_append,hcauses,hover]
  simp [Failure.isOutOfPasses]

variable {ns most qualify blocks}

/-- A larger bound cuts off fewer blocks. -/
theorem cutOff_sublist (h : most ≤ most') :
    (cutOff ns table most').Sublist (cutOff ns table most) := by
  refine List.monotone_filter_right table fun b hb => ?_
  obtain ⟨hg,hno⟩ := of_decide_eq_true hb
  exact decide_eq_true ⟨hg,fun hid => hno (hid.mono h)⟩

/-- With as many passes as there are different ids, nothing is cut off. -/
theorem isOutOfPasses_of_mem_pin (h : (ids blocks).toFinset.card ≤ most) {f : Failure}
    (hf : f ∈ (pin ns most qualify blocks).failures) : f.isOutOfPasses = false := by
  by_contra hout
  have hf : f ∈ overrun ns qualify most blocks := by
    rw [← filter_isOutOfPasses_failures_pin,List.mem_filter]
    exact ⟨hf,by simpa using hout⟩
  have hlast := lastRank_le_length ns (firstDeclared blocks)
  rw [length_firstDeclared] at hlast
  obtain ⟨hlt,_⟩ := mem_overrun.mp hf
  omega

end Pinning
end Blueprint
