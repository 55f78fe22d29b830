import Blueprint.Proofs.Pinning.Rank
import Blueprint.Proofs.Pinning.Search

/-!
Cycles of attachments. Since every block has one attachment, the cycle through an id is determined:
its members are all ids that can be reached from any of them. The search finds the members once
each, in the order of the attachments, and finds nothing from an id that only leads to a cycle.
-/

namespace Blueprint
namespace Pinning

variable {α : Type} {ns : Namespace α} {table : List (Block α)}

/-- Following the attachments from one id leads to another, or is there already. -/
abbrev LeadsTo (ns : Namespace α) (table : List (Block α)) : String → String → Prop :=
  Relation.ReflTransGen (AttachedTo ns table)

theorem OnCycle.mem_ids {id : String} (h : OnCycle ns table id) : id ∈ ids table := by
  obtain ⟨target,hatt,_⟩ := Relation.TransGen.head'_iff.mp h
  exact hatt.mem_ids

theorem OnCycle.leadsTo_of_attachedTo {id target : String} (h : OnCycle ns table id)
    (hatt : AttachedTo ns table id target) : LeadsTo ns table target id := by
  obtain ⟨target',hatt',hback⟩ := Relation.TransGen.head'_iff.mp h
  rwa [hatt.unique hatt']

/-- What is reached from an id on a cycle leads back to it. -/
theorem OnCycle.leadsTo_back {id x : String} (h : OnCycle ns table id)
    (hx : LeadsTo ns table id x) : LeadsTo ns table x id := by
  induction hx using Relation.ReflTransGen.head_induction_on with
  | refl => exact .refl
  | head hatt _ ih =>
    have hback := h.leadsTo_of_attachedTo hatt
    have hnext : OnCycle ns table _ := Relation.TransGen.tail' hback hatt
    exact (ih hnext).trans hback

/-- A cycle goes through all that is reached from its members. -/
theorem OnCycle.of_leadsTo {id x : String} (h : OnCycle ns table id)
    (hx : LeadsTo ns table id x) : OnCycle ns table x :=
  Relation.TransGen.trans_right (h.leadsTo_back hx) (Relation.TransGen.trans_left h hx)

/-! ### Cycles as walks -/

theorem Walk.leadsTo_of_mem {stop : String → Prop} {id x : String} {path : List String}
    (h : Walk ns table stop id path) (hx : x ∈ path) : LeadsTo ns table id x := by
  induction h with
  | done =>
    obtain rfl : x = _ := by simpa using hx
    exact .refl
  | step _ hatt _ ih =>
    cases hx with
    | head => exact .refl
    | tail _ hx => exact .head hatt (ih hx)

/-- A walk that stops before a goal holds everything on the way to the goal. -/
theorem Walk.mem_or_eq_of_attachedTo {goal id x y : String} {path : List String}
    (h : Walk ns table (AttachedTo ns table · goal) id path) (hx : x ∈ path)
    (hatt : AttachedTo ns table x y) : y ∈ path ∨ y = goal := by
  induction h with
  | done _ hstop =>
    obtain rfl : x = _ := by simpa using hx
    exact Or.inr (hatt.unique hstop)
  | step _ hatt' hwalk ih =>
    cases hx with
    | head =>
      rw [hatt.unique hatt']
      exact Or.inl (List.mem_cons_of_mem _ hwalk.head_mem)
    | tail _ hx =>
      rcases ih hx with hy | hy
      · exact Or.inl (List.mem_cons_of_mem _ hy)
      · exact Or.inr hy

theorem Walk.transGen {goal id : String} {path : List String}
    (h : Walk ns table (AttachedTo ns table · goal) id path) :
    Relation.TransGen (AttachedTo ns table) id goal := by
  induction h with
  | done _ hstop => exact .single hstop
  | step _ hatt _ ih => exact .head hatt ih

/-- What is led to and stops a walk is met by a walk, or something that stops it before is. -/
theorem exists_walk_of_leadsTo {stop : String → Prop} {id last : String}
    (h : LeadsTo ns table id last) (hlast : last ∈ ids table) (hstop : stop last) :
    ∃ path, Walk ns table stop id path := by
  induction h using Relation.ReflTransGen.head_induction_on with
  | refl => exact ⟨_,.done hlast hstop⟩
  | @head id target hatt _ ih =>
    by_cases hid : stop id
    · exact ⟨_,.done hatt.mem_ids hid⟩
    · obtain ⟨path,hwalk⟩ := ih
      exact ⟨_,.step hid hatt hwalk⟩

theorem exists_walk_of_transGen {goal id : String}
    (h : Relation.TransGen (AttachedTo ns table) id goal) :
    ∃ path, Walk ns table (AttachedTo ns table · goal) id path := by
  obtain ⟨last,hlead,hatt⟩ := Relation.TransGen.tail'_iff.mp h
  exact exists_walk_of_leadsTo hlead hatt.mem_ids hatt

/-! ### The search for a cycle -/

section Search

variable [Scalar α]

/-- The search finds a cycle exactly from the ids on one. -/
theorem isSome_cycleThrough_iff {id : String} :
    (∃ members, cycleThrough ns table id = some members) ↔ OnCycle ns table id := by
  simp only [cycleThrough_eq_some_iff]
  constructor
  · rintro ⟨members,hwalk⟩
    exact hwalk.transGen
  · exact exists_walk_of_transGen

theorem cycleThrough_eq_none_iff {id : String} :
    cycleThrough ns table id = none ↔ ¬ OnCycle ns table id := by
  rw [← isSome_cycleThrough_iff]
  cases cycleThrough ns table id <;> simp

/-- The members of a cycle are the ids that its first member leads to. -/
theorem mem_cycleThrough_iff {id x : String} {members : List String}
    (h : cycleThrough ns table id = some members) : x ∈ members ↔ LeadsTo ns table id x := by
  have hwalk := cycleThrough_eq_some_iff.mp h
  constructor
  · exact hwalk.leadsTo_of_mem
  · intro hx
    induction hx with
    | refl => exact hwalk.head_mem
    | tail _ hatt ih =>
      rcases hwalk.mem_or_eq_of_attachedTo ih hatt with hy | rfl
      · exact hy
      · exact hwalk.head_mem

end Search

end Pinning
end Blueprint
