import Blueprint.Proofs.Pinning.Declaration
import Mathlib.Data.List.Perm.Subperm
import Mathlib.Logic.Relation

/-!
Attachments as a graph. Every declared block has one attachment, to the reserved name or to another
name, so the way from an id is determined. A walk is the part of that way up to the first id of a
kind; it meets no id twice, and is therefore no longer than the table.
-/

namespace Blueprint

variable {α : Type}

@[simp] theorem Namespace.classify_eq_block [Scalar α] {ns : Namespace α} {target id : String} :
    ns.classify target = .block id ↔ target ≠ ns.reserved ∧ target = id := by
  unfold Namespace.classify
  split <;> simp_all

@[simp] theorem Namespace.classify_eq_fixed [Scalar α] {ns : Namespace α} {target : String}
    {rect : Rect α} :
    ns.classify target = .fixed rect ↔ target = ns.reserved ∧ ns.anchorRect = rect := by
  unfold Namespace.classify
  split <;> simp_all

namespace Pinning

variable (ns : Namespace α) (table : List (Block α))

/-- The block with an id is attached to the reserved name. -/
def AtReserved (id : String) : Prop :=
  ∃ b, declared? table id = some b ∧ b.attachTo.target = ns.reserved

/-- The block with an id is attached to a name that is not reserved, declared or not. -/
def AttachedTo (id target : String) : Prop :=
  ∃ b, declared? table id = some b ∧ b.attachTo.target ≠ ns.reserved ∧ b.attachTo.target = target

/-- Following the attachments from an id leads to the reserved name. -/
inductive Grounded : String → Prop
  | reserved {id : String} : AtReserved ns table id → Grounded id
  | attached {id target : String} : AttachedTo ns table id target → Grounded target → Grounded id

/-- Following the attachments from an id leads back to it. -/
def OnCycle (id : String) : Prop := Relation.TransGen (AttachedTo ns table) id id

/-- The ids met from an id on, up to the first at which the walk stops. -/
inductive Walk (stop : String → Prop) : String → List String → Prop
  | done {id : String} : id ∈ ids table → stop id → Walk stop id [id]
  | step {id target : String} {path : List String} :
      ¬ stop id → AttachedTo ns table id target → Walk stop target path → Walk stop id (id :: path)

variable {ns table}

theorem AttachedTo.mem_ids {id target : String} (h : AttachedTo ns table id target) :
    id ∈ ids table := by
  obtain ⟨b,hb,_⟩ := h
  exact mem_ids_of_declared? hb

theorem AtReserved.mem_ids {id : String} (h : AtReserved ns table id) : id ∈ ids table := by
  obtain ⟨b,hb,_⟩ := h
  exact mem_ids_of_declared? hb

/-- A block has one attachment. -/
theorem AttachedTo.unique {id s t : String} (hs : AttachedTo ns table id s)
    (ht : AttachedTo ns table id t) : s = t := by
  obtain ⟨b,hb,_,rfl⟩ := hs
  obtain ⟨c,hc,_,rfl⟩ := ht
  have he : b = c := Option.some.inj (hb.symm.trans hc)
  rw [he]

theorem AttachedTo.not_atReserved {id target : String} (h : AttachedTo ns table id target) :
    ¬ AtReserved ns table id := by
  obtain ⟨b,hb,hne,_⟩ := h
  rintro ⟨c,hc,he⟩
  have hbc : b = c := Option.some.inj (hb.symm.trans hc)
  exact hne (hbc ▸ he)

/-- A block is grounded together with the block it is attached to. -/
theorem AttachedTo.grounded_iff {id target : String} (h : AttachedTo ns table id target) :
    Grounded ns table id ↔ Grounded ns table target := by
  constructor
  · intro hg
    cases hg with
    | reserved hr => exact absurd hr h.not_atReserved
    | attached hatt hg => exact h.unique hatt ▸ hg
  · exact .attached h

theorem Grounded.mem_ids {id : String} (h : Grounded ns table id) : id ∈ ids table := by
  cases h with
  | reserved h => exact h.mem_ids
  | attached h _ => exact h.mem_ids

/-! ### Walks -/

namespace Walk

variable {stop : String → Prop} {id : String} {path : List String}

theorem mem_ids (h : Walk ns table stop id path) : ∀ x ∈ path, x ∈ ids table := by
  induction h with
  | done hid _ => simpa using hid
  | step _ hatt _ ih => simpa using ⟨hatt.mem_ids,ih⟩

theorem head_mem_ids (h : Walk ns table stop id path) : id ∈ ids table := by
  cases h with
  | done hid _ => exact hid
  | step _ hatt _ => exact hatt.mem_ids

/-- The way from an id is determined, and so is the place where it stops. -/
theorem unique {other : List String} (h : Walk ns table stop id path)
    (h' : Walk ns table stop id other) : path = other := by
  induction h generalizing other with
  | done _ hstop =>
    cases h' with
    | done => rfl
    | step hgo => exact absurd hstop hgo
  | step hgo hatt _ ih =>
    cases h' with
    | done _ hstop => exact absurd hstop hgo
    | step _ hatt' hwalk => rw [ih (hatt.unique hatt' ▸ hwalk)]

/-- From every id met, the walk goes on to the same end. -/
theorem suffix_of_mem (h : Walk ns table stop id path) {x : String} (hx : x ∈ path) :
    ∃ rest, Walk ns table stop x rest ∧ rest <:+ path := by
  induction h with
  | done hid hstop =>
    obtain rfl : x = _ := by simpa using hx
    exact ⟨_,.done hid hstop,List.suffix_refl _⟩
  | step hgo hatt hwalk ih =>
    cases hx with
    | head => exact ⟨_,.step hgo hatt hwalk,List.suffix_refl _⟩
    | tail _ hx =>
      obtain ⟨rest,hrest,hsuf⟩ := ih hx
      exact ⟨rest,hrest,hsuf.trans (List.suffix_cons _ _)⟩

/-- A walk meets no id twice: the two ways on from a repeated id would be the same way, of
different lengths. -/
theorem nodup (h : Walk ns table stop id path) : path.Nodup := by
  induction h with
  | done => simp
  | step hgo hatt hwalk ih =>
    refine List.nodup_cons.mpr ⟨?_,ih⟩
    intro hmem
    obtain ⟨rest,hrest,hsuf⟩ := hwalk.suffix_of_mem hmem
    have he := hrest.unique (.step hgo hatt hwalk)
    have hlen := hsuf.length_le
    rw [he,List.length_cons] at hlen
    omega

theorem length_le (h : Walk ns table stop id path) : path.length ≤ table.length := by
  rw [← length_ids table]
  exact (List.subperm_of_subset h.nodup h.mem_ids).length_le

theorem head_mem (h : Walk ns table stop id path) : id ∈ path := by
  cases h <;> simp

end Walk

end Pinning
end Blueprint
