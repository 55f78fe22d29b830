import Blueprint.Plan.Validity

/-!
What validity says about ids: they are not empty and hold none of the characters that references are
cut at. Rooms and parts are of positive size, and openings of positive width.
-/

namespace Blueprint

variable {α : Type}

/-- An id that stands for itself in references. -/
structure PlainId (id : String) : Prop where
  ne_empty : id ≠ ""
  noDot : '.' ∉ id.toList
  noColon : ':' ∉ id.toList

theorem idProblems_eq_nil_iff {id : String} :
    (idProblems id : List (Problem α)) = [] ↔ PlainId id := by
  unfold idProblems
  split
  · rename_i hempty
    have hid : id = "" := by simpa using hempty
    simp only [List.cons_ne_nil,false_iff]
    exact fun h => h.ne_empty hid
  · rename_i hne
    have hid : id ≠ "" := by simpa using hne
    have hnone : (id.toList.find? isReserved).toList.map (Problem.idContains (α := α)) = [] ↔
        ∀ c ∈ id.toList, isReserved c = false := by
      rw [List.map_eq_nil_iff,Option.toList_eq_nil_iff,List.find?_eq_none]
      simp
    rw [hnone]
    constructor
    · intro h
      exact ⟨hid,fun hc => by simpa [isReserved] using h _ hc,
        fun hc => by simpa [isReserved] using h _ hc⟩
    · intro h c hc
      have hdot : c ≠ '.' := fun he => h.noDot (he ▸ hc)
      have hcolon : c ≠ ':' := fun he => h.noColon (he ▸ hc)
      simp [isReserved,hdot,hcolon]

theorem violationsOf_eq_nil_iff {subject : Subject} {problems : List (Problem α)} :
    violationsOf subject problems = [] ↔ problems = [] := List.map_eq_nil_iff

variable [Scalar α]

theorem Block.plainId {b : Block α} (h : b.problems = []) : PlainId b.id := by
  simp only [problems,List.append_eq_nil_iff] at h
  exact idProblems_eq_nil_iff.mp h.1.1.1

variable {plan : Plan α}

theorem Plan.violations_eq_nil_of_room (h : plan.isValid = true) {room : Room α}
    (hroom : room ∈ plan.rooms) : room.violations = [] := by
  have hnone : plan.violations = [] := List.isEmpty_iff.mp h
  rw [violations,List.append_eq_nil_iff] at hnone
  exact List.flatMap_eq_nil_iff.mp hnone.1 room hroom

theorem Plan.violations_eq_nil_of_opening (h : plan.isValid = true) {o : Opening α}
    (ho : o ∈ plan.openings) : o.violations = [] := by
  have hnone : plan.violations = [] := List.isEmpty_iff.mp h
  rw [violations,List.append_eq_nil_iff] at hnone
  exact List.flatMap_eq_nil_iff.mp hnone.2 o ho

/-- The ids of rooms are plain in a valid plan. -/
theorem Plan.plainId_room (h : plan.isValid = true) {room : Room α} (hroom : room ∈ plan.rooms) :
    PlainId room.id := by
  have hnone := violations_eq_nil_of_room h hroom
  simp only [Room.violations,List.append_eq_nil_iff,violationsOf_eq_nil_iff] at hnone
  exact Block.plainId hnone.1.1

/-- The ids of parts are plain in a valid plan. -/
theorem Plan.plainId_part (h : plan.isValid = true) {room : Room α} (hroom : room ∈ plan.rooms)
    {part : Part α} (hpart : part ∈ room.parts) : PlainId part.id := by
  have hnone := violations_eq_nil_of_room h hroom
  simp only [Room.violations,List.append_eq_nil_iff] at hnone
  have hpart := List.flatMap_eq_nil_iff.mp hnone.2 part hpart
  simp only [Part.violations,List.append_eq_nil_iff,violationsOf_eq_nil_iff] at hpart
  exact Block.plainId hpart.1

theorem measureProblems_eq_nil_iff {measure : Measure} {value : α} :
    measureProblems measure value = [] ↔ Scalar.positive value = true := by
  rw [measureProblems,ite_eq_left_iff]
  simp

/-- The rooms of a plan with their parts. -/
def Plan.blocks {α : Type} (plan : Plan α) : List (Block α) :=
  plan.rooms.flatMap fun room => room.toBlock :: room.parts.map Part.toBlock

theorem Plan.problems_block (h : plan.isValid = true) {b : Block α} (hb : b ∈ plan.blocks) :
    b.problems = [] := by
  obtain ⟨room,hroom,hb⟩ := List.mem_flatMap.mp hb
  have hnone := violations_eq_nil_of_room h hroom
  simp only [Room.violations,List.append_eq_nil_iff,violationsOf_eq_nil_iff] at hnone
  rcases List.mem_cons.mp hb with rfl | hb
  · exact hnone.1.1
  · obtain ⟨part,hpart,rfl⟩ := List.mem_map.mp hb
    have hpart := List.flatMap_eq_nil_iff.mp hnone.2 part hpart
    simp only [Part.violations,List.append_eq_nil_iff,violationsOf_eq_nil_iff] at hpart
    exact hpart.1

/-- The rooms and parts of a valid plan are of positive size. -/
theorem Plan.positive_block (h : plan.isValid = true) {b : Block α} (hb : b ∈ plan.blocks) :
    Scalar.positive b.width = true ∧ Scalar.positive b.depth = true := by
  have hnone := problems_block h hb
  simp only [Block.problems,List.append_eq_nil_iff,measureProblems_eq_nil_iff] at hnone
  exact ⟨hnone.1.1.2,hnone.1.2⟩

/-- Openings of a valid plan are of positive width. -/
theorem Plan.positive_width (h : plan.isValid = true) {o : Opening α} (ho : o ∈ plan.openings) :
    Scalar.positive o.width = true := by
  have hnone := violations_eq_nil_of_opening h ho
  simp only [Opening.violations,violationsOf_eq_nil_iff,Window.problems,
    List.append_eq_nil_iff] at hnone
  exact measureProblems_eq_nil_iff.mp hnone.1.2

end Blueprint
