import Blueprint.Proofs.Pinning.Reach

/-!
A pinning solves the attachments of its blocks, and nothing else does: along the attachments, from
the reserved name outwards, every rectangle is determined by the one before.
-/

namespace Blueprint
namespace Pinning

variable {α : Type} [Scalar α] {ns : Namespace α} {blocks : List (Block α)}

/-- The rectangle that a target name stands for, if `given` tells the rectangles of the blocks. -/
def Stands (ns : Namespace α) (given : String → Rect α → Prop) (target : String) (rect : Rect α) :
    Prop :=
  (target = ns.reserved ∧ rect = ns.anchorRect) ∨ (target ≠ ns.reserved ∧ given target rect)

/-- Every rectangle given to an id is that of its first declaration, pinned to a rectangle that its
target stands for. -/
def Solves (ns : Namespace α) (blocks : List (Block α)) (given : String → Rect α → Prop) : Prop :=
  ∀ id rect, given id rect → ∃ b, declared? blocks id = some b ∧
    ∃ target, Stands ns given b.attachTo.target target ∧
      rect = placeAt b (target.corner b.attachTo.corner)

theorem targetRect?_eq_some_iff {places : Places α} (hd : (places.map (·.1)).Nodup) {b : Block α}
    {rect : Rect α} : targetRect? ns places b = some rect ↔
      Stands ns (fun id r => (id,r) ∈ places) b.attachTo.target rect := by
  by_cases hr : b.attachTo.target = ns.reserved
  · have hc : ns.classify b.attachTo.target = .fixed ns.anchorRect :=
      Namespace.classify_eq_fixed.mpr ⟨hr,rfl⟩
    simp only [targetRect?,hc]
    simp [Stands,hr,eq_comm]
  · have hc : ns.classify b.attachTo.target = .block b.attachTo.target :=
      Namespace.classify_eq_block.mpr ⟨hr,rfl⟩
    simp [targetRect?,hc,Stands,hr,lookup_eq_some_iff_mem hd]

variable {maxPasses : Nat} {qualify : String → String}

theorem mem_pin_iff {id : String} {rect : Rect α} :
    (pin ns maxPasses qualify blocks).rects.lookup id = some rect ↔
      (id,rect) ∈ (pin ns maxPasses qualify blocks).rects :=
  lookup_eq_some_iff_mem (nodup_keys_pin ns maxPasses qualify blocks)

/-- The places of a pinning solve the attachments. -/
theorem solves_pin :
    Solves ns blocks fun id rect => (id,rect) ∈ (pin ns maxPasses qualify blocks).rects := by
  intro id rect hmem
  obtain ⟨b,hb,target,htarget,hrect⟩ :=
    pinned_pin ns maxPasses qualify blocks (mem_pin_iff.mpr hmem)
  rw [declared?_firstDeclared] at hb
  have hd := nodup_keys_pin ns maxPasses qualify blocks
  exact ⟨b,hb,target,(targetRect?_eq_some_iff hd).mp htarget,hrect⟩

/-- If the targets of a block agree with the pinning, so does the block. -/
theorem Solves.mem_pin_of_target {given : String → Rect α → Prop} (h : Solves ns blocks given)
    {id : String} {rect : Rect α} (hid : given id rect)
    (hplaced : id ∈ (pin ns maxPasses qualify blocks).rects.map (·.1))
    (htargets : ∀ name target, AttachedTo ns (firstDeclared blocks) id name → given name target →
      (name,target) ∈ (pin ns maxPasses qualify blocks).rects) :
    (id,rect) ∈ (pin ns maxPasses qualify blocks).rects := by
  have hd := nodup_keys_pin ns maxPasses qualify blocks
  obtain ⟨⟨_,found⟩,hmem,rfl⟩ := List.mem_map.mp hplaced
  obtain ⟨b,hb,target,hstands,rfl⟩ := h _ _ hid
  obtain ⟨c,hc,target',hstands',hfound⟩ := solves_pin _ _ hmem
  obtain rfl : b = c := Option.some.inj (hb.symm.trans hc)
  have hagree : Stands ns (fun id r => (id,r) ∈ (pin ns maxPasses qualify blocks).rects)
      b.attachTo.target target := by
    rcases hstands with hr | ⟨hne,hgiven⟩
    · exact Or.inl hr
    · rw [← declared?_firstDeclared] at hb
      exact Or.inr ⟨hne,htargets _ _ ⟨b,hb,hne,rfl⟩ hgiven⟩
  have htarget := (targetRect?_eq_some_iff hd).mpr hagree
  rw [(targetRect?_eq_some_iff hd).mpr hstands'] at htarget
  obtain rfl := Option.some.inj htarget
  exact hfound ▸ hmem

/-- A solution on ids that are placed agrees with the pinning. The induction is on the way from an
id to the reserved name, since the rectangle of the target comes first. -/
theorem Solves.mem_pin {given : String → Rect α → Prop} (h : Solves ns blocks given)
    (hplaced : ∀ id rect, given id rect → id ∈ (pin ns maxPasses qualify blocks).rects.map (·.1))
    {id : String} {rect : Rect α} (hid : given id rect) :
    (id,rect) ∈ (pin ns maxPasses qualify blocks).rects := by
  have hg : Grounded ns (firstDeclared blocks) id := by
    have hkey := hplaced id rect hid
    rw [keys_pin,List.mem_filter,decide_eq_true_eq] at hkey
    exact hkey.2.grounded
  induction hg generalizing rect with
  | reserved hr =>
    refine h.mem_pin_of_target hid (hplaced _ _ hid) fun name target hatt _ => ?_
    exact absurd hr hatt.not_atReserved
  | attached hatt _ ih =>
    refine h.mem_pin_of_target hid (hplaced _ _ hid) fun name target hatt' hgiven => ?_
    obtain rfl := hatt.unique hatt'
    exact ih hgiven

end Pinning
end Blueprint
