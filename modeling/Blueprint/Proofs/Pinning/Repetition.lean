import Blueprint.Proofs.Pinning.Account

/-!
Blocks that repeat an id. A later declaration takes no part in a pinning: the list is pinned as if
it held only the first declaration of each id, and each later one is told.
-/

namespace Blueprint

/-- Whether a failure tells of a later declaration. -/
def Failure.isDuplicate : Failure → Bool
  | duplicate _ => true
  | _ => false

theorem diff_append_of_subperm {κ : Type} [DecidableEq κ] {first l : List κ}
    (h : first.Subperm l) (more : List κ) : (l ++ more).diff first = l.diff first ++ more := by
  induction first generalizing l with
  | nil => simp
  | cons a first ih =>
    have ha : a ∈ l := h.subset List.mem_cons_self
    have hrest : first.Subperm (l.erase a) := by simpa using h.erase a
    rw [List.diff_cons,List.diff_cons,List.erase_append_left more ha,ih hrest]

namespace Pinning

variable {α : Type}

/-- The ids of later declarations are what is left of all ids when the first of each is taken. -/
theorem laterDeclared_eq_diff (blocks : List (Block α)) :
    laterDeclared blocks = (ids blocks).diff (ids (firstDeclared blocks)) := by
  induction blocks using List.reverseRecOn with
  | nil => rfl
  | append_singleton blocks b ih =>
    have hsub : (ids (firstDeclared blocks)).Subperm (ids blocks) :=
      ((firstDeclared_sublist blocks).map _).subperm
    rw [laterDeclared_concat,firstDeclared_concat,ids_append,ih]
    split
    · exact (diff_append_of_subperm hsub _).symm
    · rename_i hb
      have hnew : b.id ∉ (ids blocks).diff (ids (firstDeclared blocks)) :=
        fun hmem => hb (List.diff_subset _ _ hmem)
      rw [ids_append,List.diff_append,diff_append_of_subperm hsub,ids_cons,ids_nil,List.diff_cons,
        List.diff_nil,List.erase_append_right _ hnew,List.erase_cons_head]

variable [Scalar α] {ns : Namespace α} {maxPasses : Nat} {qualify : String → String}
  {blocks : List (Block α)}

theorem isDuplicate_of_mem_causes {f : Failure} (h : f ∈ causes ns qualify blocks) :
    f.isDuplicate = false := by
  rcases kind_of_mem_causes h with ⟨_,_,rfl⟩ | ⟨_,rfl⟩ | ⟨_,_,rfl⟩ <;> rfl

variable (ns maxPasses qualify blocks)

/-- A list is pinned as its first declarations are, and tells the later ones before anything
else. -/
theorem pin_eq_pin_firstDeclared : pin ns maxPasses qualify blocks =
    { pin ns maxPasses qualify (firstDeclared blocks) with
      failures := (laterDeclared blocks).map (fun id => .duplicate (qualify id)) ++
        (pin ns maxPasses qualify (firstDeclared blocks)).failures } := by
  have hd := nodup_ids_firstDeclared blocks
  simp [pin,firstDeclared_of_nodup hd,laterDeclared_of_nodup hd]

/-- First declarations tell of no later one. -/
theorem isDuplicate_of_mem_pin_firstDeclared {f : Failure}
    (h : f ∈ (pin ns maxPasses qualify (firstDeclared blocks)).failures) :
    f.isDuplicate = false := by
  rw [failures_pin_eq,laterDeclared_of_nodup (nodup_ids_firstDeclared blocks)] at h
  rcases List.mem_append.mp h with h | h
  · exact isDuplicate_of_mem_causes h
  · obtain ⟨_,rfl⟩ := mem_overrun.mp h
    rfl

theorem rects_pin_firstDeclared : (pin ns maxPasses qualify (firstDeclared blocks)).rects =
    (pin ns maxPasses qualify blocks).rects := by
  rw [pin_eq_pin_firstDeclared ns maxPasses qualify blocks]

theorem failures_pin_firstDeclared : (pin ns maxPasses qualify (firstDeclared blocks)).failures =
    (pin ns maxPasses qualify blocks).failures.filter fun f => !f.isDuplicate := by
  have hrest : (pin ns maxPasses qualify (firstDeclared blocks)).failures.filter
      (fun f => !f.isDuplicate) = (pin ns maxPasses qualify (firstDeclared blocks)).failures :=
    List.filter_eq_self.mpr fun f hf => by
      simp [isDuplicate_of_mem_pin_firstDeclared ns maxPasses qualify blocks hf]
  have hlater : ((laterDeclared blocks).map fun id => Failure.duplicate (qualify id)).filter
      (fun f => !f.isDuplicate) = [] := by simp [Failure.isDuplicate]
  rw [pin_eq_pin_firstDeclared ns maxPasses qualify blocks,List.filter_append,hlater,hrest,
    List.nil_append]

theorem filter_isDuplicate_failures_pin :
    (pin ns maxPasses qualify blocks).failures.filter Failure.isDuplicate =
      (laterDeclared blocks).map fun id => .duplicate (qualify id) := by
  have hnone : (pin ns maxPasses qualify (firstDeclared blocks)).failures.filter
      Failure.isDuplicate = [] := List.filter_eq_nil_iff.mpr fun f hf => by
    simp [isDuplicate_of_mem_pin_firstDeclared ns maxPasses qualify blocks hf]
  rw [pin_eq_pin_firstDeclared ns maxPasses qualify blocks,List.filter_append,hnone]
  simp [Failure.isDuplicate]

end Pinning
end Blueprint
