import Blueprint.Proofs.Plan.Validity
import Mathlib.Data.List.Forall2

/-!
What a plan is checked for, and what is recorded. The checks of a plan stand in a list of their own,
entity by entity in the order of the document. Main statement: the violations of a plan are one
record for each check in that list that is not passed, and a plan is valid exactly if all ids are
plain and all numbers are finite, sizes above zero.
-/

namespace Blueprint

/-! ### Sound plans -/

/-- A number that something can be as wide, deep or high as. -/
def FinitePositive (x : Float) : Prop := x.isFinite = true ∧ 0 < x

instance (x : Float) : Decidable (FinitePositive x) := inferInstanceAs (Decidable (_ ∧ _))

structure Block.Sound (b : Block Float) : Prop where
  id : PlainId b.id
  width : FinitePositive b.width
  depth : FinitePositive b.depth
  offset : b.offset.1.isFinite = true ∧ b.offset.2.isFinite = true

/-- The height of a square without one is its width, and that of a circle always is. -/
structure Furnishing.Sound (f : Furnishing Float) : Prop where
  position : f.x.isFinite = true ∧ f.y.isFinite = true
  width : FinitePositive f.width
  height : f.shape = .square → ∀ height, f.height = some height → FinitePositive height

structure Window.Sound (w : Window Float) : Prop where
  offset : w.offset.isFinite = true
  width : FinitePositive w.width
  depth : ∀ depth, w.depth = some depth → FinitePositive depth

structure Room.Sound (r : Room Float) : Prop where
  block : r.toBlock.Sound
  furnishings : ∀ f ∈ r.furnishings, f.Sound
  parts : ∀ p ∈ r.parts, p.toBlock.Sound ∧ ∀ f ∈ p.furnishings, f.Sound

structure Plan.Sound (plan : Plan Float) : Prop where
  rooms : ∀ r ∈ plan.rooms, r.Sound
  doors : ∀ d ∈ plan.doors, d.toWindow.Sound
  windows : ∀ w ∈ plan.windows, w.Sound

/-! ### Checks and what is recorded -/

inductive Check where
  | id (id : String)
  | extent (measure : Measure) (value : Float)
  | shift (dx dy : Float)
  | position (x y : Float)
  | offset (value : Float)

namespace Check

def Passed : Check → Prop
  | id s => PlainId s
  | extent _ value => FinitePositive value
  | shift dx dy => dx.isFinite = true ∧ dy.isFinite = true
  | position x y => x.isFinite = true ∧ y.isFinite = true
  | offset value => value.isFinite = true

/-- What is recorded of a check that is not passed; of an id, the first character that it should not
hold. -/
inductive Told : Check → Problem Float → Prop
  | empty : Told (id "") .emptyId
  | reserved {s : String} {before after : List Char} {c : Char} : s.toList = before ++ c :: after →
      (∀ d ∈ before, d ≠ '.' ∧ d ≠ ':') → c = '.' ∨ c = ':' → Told (id s) (.idContains c)
  | extent {measure : Measure} {value : Float} :
      Told (extent measure value) (.notPositive measure value)
  | shift {dx dy : Float} : Told (shift dx dy) .shiftNotFinite
  | position {x y : Float} : Told (position x y) .positionNotFinite
  | offset {value : Float} : Told (offset value) .offsetNotFinite

/-- The problems that a check finds. -/
def problems : Check → List (Problem Float)
  | id s => idProblems s
  | extent measure value => measureProblems measure value
  | shift dx dy => if dx.isFinite && dy.isFinite then [] else [.shiftNotFinite]
  | position x y => if x.isFinite && y.isFinite then [] else [.positionNotFinite]
  | offset value => if value.isFinite then [] else [.offsetNotFinite]

instance : DecidablePred Passed
  | id _ => decidable_of_iff _ (idProblems_eq_nil_iff (α := Float))
  | extent _ value => inferInstanceAs (Decidable (FinitePositive value))
  | shift _ _ => inferInstanceAs (Decidable (_ ∧ _))
  | position _ _ => inferInstanceAs (Decidable (_ ∧ _))
  | offset _ => inferInstanceAs (Decidable (_ = _))

theorem positive_iff {x : Float} : Scalar.positive x = true ↔ FinitePositive x := by
  rw [Scalar.positive,Bool.and_eq_true_iff,decide_eq_true_iff]
  rfl

theorem idProblems_of_not_plainId {s : String} (h : ¬ PlainId s) :
    ∃ p, idProblems s = [p] ∧ Told (id s) p := by
  unfold idProblems
  split
  · rename_i hempty
    obtain rfl : s = "" := by simpa using hempty
    exact ⟨_,rfl,.empty⟩
  · cases hfind : s.toList.find? isReserved with
    | none =>
      rename_i hne
      refine absurd (idProblems_eq_nil_iff (α := Float).mp ?_) h
      rw [idProblems,if_neg hne,hfind]
      rfl
    | some c =>
      obtain ⟨hc,before,after,hsplit,hbefore⟩ := List.find?_eq_some_iff_append.mp hfind
      refine ⟨_,rfl,.reserved hsplit (fun d hd => ?_) (by simpa [isReserved] using hc)⟩
      simpa [isReserved] using hbefore d hd

/-- A check that is passed finds no problem, and any other one, of which it tells. -/
theorem problems_cases (c : Check) :
    c.Passed ∧ c.problems = [] ∨ ¬ c.Passed ∧ ∃ p, c.problems = [p] ∧ c.Told p := by
  by_cases hpassed : c.Passed
  · refine Or.inl ⟨hpassed,?_⟩
    cases c with
    | id s => exact idProblems_eq_nil_iff.mpr hpassed
    | extent => exact measureProblems_eq_nil_iff.mpr (positive_iff.mpr hpassed)
    | shift => exact if_pos (Bool.and_eq_true_iff.mpr hpassed)
    | position => exact if_pos (Bool.and_eq_true_iff.mpr hpassed)
    | offset => exact if_pos hpassed
  · refine Or.inr ⟨hpassed,?_⟩
    cases c with
    | id s => exact idProblems_of_not_plainId hpassed
    | extent => exact ⟨_,if_neg (mt positive_iff.mp hpassed),.extent⟩
    | shift => exact ⟨_,if_neg (mt Bool.and_eq_true_iff.mp hpassed),.shift⟩
    | position => exact ⟨_,if_neg (mt Bool.and_eq_true_iff.mp hpassed),.position⟩
    | offset => exact ⟨_,if_neg hpassed,.offset⟩

theorem forall₂_told (subject : Subject) (checks : List Check) :
    List.Forall₂ (fun c v => v.subject = subject ∧ c.Told v.problem)
      (checks.filter (¬ ·.Passed)) (violationsOf subject (checks.flatMap problems)) := by
  induction checks with
  | nil => exact .nil
  | cons c checks ih =>
    rw [List.flatMap_cons]
    rcases c.problems_cases with ⟨hpassed,hnone⟩ | ⟨hfailed,p,hone,htold⟩
    · rwa [hnone,List.filter_cons_of_neg (by simpa using hpassed)]
    · rw [hone,List.filter_cons_of_pos (by simpa using hfailed)]
      exact .cons ⟨rfl,htold⟩ ih

end Check

/-! ### The checks of a plan -/

def Block.checks (b : Block Float) : List Check :=
  [.id b.id,.extent .width b.width,.extent .depth b.depth,.shift b.offset.1 b.offset.2]

def Furnishing.checks (f : Furnishing Float) : List Check :=
  let height := match f.shape, f.height with
    | .square, some height => height
    | _, _ => f.width
  [.position f.x f.y,.extent .width f.width,.extent .height height]

def Window.checks (w : Window Float) : List Check :=
  [.offset w.offset,.extent .width w.width] ++ w.depth.toList.map (.extent .depth)

/-- Something that a plan declares, with its checks. -/
structure Entity where
  subject : Subject
  checks : List Check

namespace Entity

/-- One record for each check of an entity that is not passed, in the order of the checks. -/
def Told (e : Entity) (records : List (Violation Float)) : Prop :=
  List.Forall₂ (fun c v => v.subject = e.subject ∧ c.Told v.problem)
    (e.checks.filter (¬ ·.Passed)) records

def records (e : Entity) : List (Violation Float) :=
  violationsOf e.subject (e.checks.flatMap Check.problems)

theorem told_records (e : Entity) : e.Told e.records := Check.forall₂_told e.subject e.checks

end Entity

def furnishingEntities (subject : Nat → Subject) (fs : List (Furnishing Float)) : List Entity :=
  fs.mapIdx fun i f => ⟨subject i,f.checks⟩

def Part.entities (room : String) (p : Part Float) : List Entity :=
  ⟨.part room p.id,p.toBlock.checks⟩ :: furnishingEntities (.partFurnishing room p.id) p.furnishings

def Room.entities (r : Room Float) : List Entity :=
  ⟨.room r.id,r.toBlock.checks⟩ :: furnishingEntities (.roomFurnishing r.id) r.furnishings ++
    r.parts.flatMap (Part.entities r.id)

/-- All that a plan declares, in the order of the document. -/
def Plan.entities (plan : Plan Float) : List Entity :=
  plan.rooms.flatMap Room.entities ++
    plan.doors.mapIdx (fun i d => ⟨.opening .door i,d.toWindow.checks⟩) ++
    plan.windows.mapIdx (fun i w => ⟨.opening .window i,w.checks⟩)

/-! ### Records, entity by entity -/

section Records

variable (subject : Subject)

theorem violationsOf_block (b : Block Float) :
    violationsOf subject b.problems = (Entity.mk subject b.checks).records := by
  refine congrArg (violationsOf subject) ?_
  simp only [Block.problems,Block.checks,List.flatMap_cons,List.flatMap_nil,List.append_nil,
    List.append_assoc]
  rfl

theorem violationsOf_furnishing (f : Furnishing Float) :
    violationsOf subject f.problems = (Entity.mk subject f.checks).records := by
  have hheight : f.size.2 = match f.shape, f.height with
      | .square, some height => height
      | _, _ => f.width := by
    unfold Furnishing.size
    cases f.shape <;> cases f.height <;> rfl
  have hwidth : f.size.1 = f.width := by
    unfold Furnishing.size
    cases f.shape <;> rfl
  refine congrArg (violationsOf subject) ?_
  simp only [Furnishing.problems,Furnishing.checks,List.flatMap_cons,List.flatMap_nil,
    List.append_nil,List.append_assoc,hheight,hwidth]
  rfl

theorem violationsOf_window (w : Window Float) :
    violationsOf subject w.problems = (Entity.mk subject w.checks).records := by
  refine congrArg (violationsOf subject) ?_
  unfold Window.problems Window.checks
  cases w.depth <;>
    simp only [Option.toList_none,Option.toList_some,List.map_nil,List.map_cons,List.cons_append,
      List.nil_append,List.flatMap_cons,List.flatMap_nil,List.append_nil,List.append_assoc] <;>
    rfl

end Records

theorem map_mapIdx {β γ δ : Type} (f : Nat → β → γ) (g : γ → δ) (l : List β) :
    (l.mapIdx f).map g = l.mapIdx fun i b => g (f i b) := by
  rw [List.mapIdx_eq_zipIdx_map,List.mapIdx_eq_zipIdx_map,List.map_map]
  rfl

theorem furnishingViolations_eq (subject : Nat → Subject) (fs : List (Furnishing Float)) :
    furnishingViolations subject fs = (furnishingEntities subject fs).flatMap Entity.records := by
  simp only [furnishingViolations,furnishingEntities,List.flatMap_def,map_mapIdx,
    violationsOf_furnishing]

theorem Part.violations_eq (room : String) (p : Part Float) :
    p.violations room = (p.entities room).flatMap Entity.records := by
  rw [violations,entities,List.flatMap_cons,violationsOf_block,furnishingViolations_eq]

theorem Room.violations_eq (r : Room Float) :
    r.violations = r.entities.flatMap Entity.records := by
  have hparts : Part.violations r.id = fun p : Part Float =>
      (p.entities r.id).flatMap Entity.records := funext (Part.violations_eq r.id)
  rw [violations,entities,List.flatMap_append,List.flatMap_cons,violationsOf_block,
    furnishingViolations_eq,List.flatMap_assoc,hparts]

theorem Plan.violations_eq (plan : Plan Float) :
    plan.violations = plan.entities.flatMap Entity.records := by
  have hrooms : Room.violations = fun r : Room Float => r.entities.flatMap Entity.records :=
    funext Room.violations_eq
  have hopenings : plan.openings.flatMap Opening.violations =
      (plan.doors.mapIdx fun i d => Entity.mk (.opening .door i) d.toWindow.checks).flatMap
        Entity.records ++
      (plan.windows.mapIdx fun i w => Entity.mk (.opening .window i) w.checks).flatMap
        Entity.records := by
    rw [openings,List.flatMap_append]
    simp only [List.flatMap_def,map_mapIdx,Opening.violations,violationsOf_window]
  rw [violations,entities,List.flatMap_append,List.flatMap_append,List.flatMap_assoc,hrooms,
    hopenings,List.append_assoc]

/-! ### Valid plans -/

theorem Entity.records_eq_nil_iff {e : Entity} : e.records = [] ↔ ∀ c ∈ e.checks, c.Passed := by
  rw [records,violationsOf_eq_nil_iff,List.flatMap_eq_nil_iff]
  refine forall₂_congr fun c _ => ?_
  rcases c.problems_cases with ⟨hpassed,hnone⟩ | ⟨hfailed,p,hone,_⟩
  · simp [hpassed,hnone]
  · simp [hfailed,hone]

theorem Block.sound_iff {b : Block Float} : (∀ c ∈ b.checks, c.Passed) ↔ b.Sound := by
  simp only [checks,List.forall_mem_cons,List.not_mem_nil,false_imp_iff,implies_true,and_true]
  exact ⟨fun ⟨hid,hwidth,hdepth,hoffset⟩ => ⟨hid,hwidth,hdepth,hoffset⟩,
    fun h => ⟨h.id,h.width,h.depth,h.offset⟩⟩

theorem Furnishing.sound_iff {f : Furnishing Float} : (∀ c ∈ f.checks, c.Passed) ↔ f.Sound := by
  simp only [checks,List.forall_mem_cons,List.not_mem_nil,false_imp_iff,implies_true,and_true]
  constructor
  · rintro ⟨hposition,hwidth,hheight⟩
    refine ⟨hposition,hwidth,fun hshape height hgiven => ?_⟩
    rwa [hshape,hgiven] at hheight
  · rintro ⟨hposition,hwidth,hheight⟩
    refine ⟨hposition,hwidth,?_⟩
    split
    · rename_i height hshape hgiven
      exact hheight hshape height hgiven
    · exact hwidth

theorem Window.sound_iff {w : Window Float} : (∀ c ∈ w.checks, c.Passed) ↔ w.Sound := by
  rw [checks,List.forall_mem_append]
  simp only [List.forall_mem_cons,List.not_mem_nil,false_imp_iff,implies_true,and_true,
    List.forall_mem_map,Option.mem_toList]
  exact ⟨fun ⟨⟨hoffset,hwidth⟩,hdepth⟩ => ⟨hoffset,hwidth,hdepth⟩,
    fun h => ⟨⟨h.offset,h.width⟩,h.depth⟩⟩

theorem forall_mem_mapIdx {β γ : Type} {f : Nat → β → γ} {P : γ → Prop} {Q : β → Prop}
    (h : ∀ i b, P (f i b) ↔ Q b) {l : List β} : (∀ e ∈ l.mapIdx f, P e) ↔ ∀ b ∈ l, Q b := by
  constructor
  · intro hall b hb
    obtain ⟨i,hi,rfl⟩ := List.mem_iff_getElem.mp hb
    exact (h i _).mp (hall _ (List.mem_mapIdx.mpr ⟨i,hi,rfl⟩))
  · rintro hall e he
    obtain ⟨i,hi,rfl⟩ := List.mem_mapIdx.mp he
    exact (h i _).mpr (hall _ (List.getElem_mem hi))

theorem Plan.isValid_iff {plan : Plan Float} : plan.isValid = true ↔ plan.Sound := by
  have hfurnishings (subject : Nat → Subject) (fs : List (Furnishing Float)) :
      (∀ e ∈ furnishingEntities subject fs, ∀ c ∈ e.checks, c.Passed) ↔ ∀ f ∈ fs, f.Sound :=
    forall_mem_mapIdx fun _ _ => Furnishing.sound_iff
  have hpart (room : String) (p : Part Float) :
      (∀ e ∈ p.entities room, ∀ c ∈ e.checks, c.Passed) ↔
        p.toBlock.Sound ∧ ∀ f ∈ p.furnishings, f.Sound := by
    rw [Part.entities,List.forall_mem_cons,hfurnishings,Block.sound_iff]
  have hroom (r : Room Float) : (∀ e ∈ r.entities, ∀ c ∈ e.checks, c.Passed) ↔ r.Sound := by
    rw [Room.entities,List.forall_mem_append,List.forall_mem_cons,hfurnishings,Block.sound_iff,
      List.forall_mem_flatMap]
    simp only [hpart]
    exact ⟨fun ⟨⟨hblock,hfs⟩,hparts⟩ => ⟨hblock,hfs,hparts⟩,
      fun h => ⟨⟨h.block,h.furnishings⟩,h.parts⟩⟩
  have hdoors : (∀ e ∈ plan.doors.mapIdx fun i d =>
      Entity.mk (.opening .door i) d.toWindow.checks, ∀ c ∈ e.checks, c.Passed) ↔
        ∀ d ∈ plan.doors, d.toWindow.Sound := forall_mem_mapIdx fun _ _ => Window.sound_iff
  have hwindows : (∀ e ∈ plan.windows.mapIdx fun i w =>
      Entity.mk (.opening .window i) w.checks, ∀ c ∈ e.checks, c.Passed) ↔
        ∀ w ∈ plan.windows, w.Sound := forall_mem_mapIdx fun _ _ => Window.sound_iff
  rw [isValid,List.isEmpty_iff,violations_eq,List.flatMap_eq_nil_iff]
  simp only [Entity.records_eq_nil_iff,entities,List.forall_mem_append,List.forall_mem_flatMap,hroom,
    hdoors,hwindows]
  exact ⟨fun ⟨⟨hrooms,hdoors⟩,hwindows⟩ => ⟨hrooms,hdoors,hwindows⟩,
    fun h => ⟨⟨h.rooms,h.doors⟩,h.windows⟩⟩

/-! ### What validation tells -/

/-- What is known of the violations of a plan. -/
structure Plan.Checked (plan : Plan Float) : Prop where
  valid : plan.isValid = true ↔ plan.Sound
  /-- Each entity has the records of its own checks that are not passed, one for each, and the
  entities follow one another as in the document. -/
  told : ∃ records, plan.violations = records.flatten ∧
    List.Forall₂ Entity.Told plan.entities records
  /-- In plans that differ in one entity, only the records of this one differ. -/
  apart : ∀ (other : Plan Float) (before after : List Entity) (e e' : Entity),
    plan.entities = before ++ e :: after → other.entities = before ++ e' :: after →
    ∃ front own own' back, e.Told own ∧ e'.Told own' ∧
      plan.violations = front ++ own ++ back ∧ other.violations = front ++ own' ++ back

/-- Validation is sound and complete, and no violation hides another. -/
theorem plan_checked (plan : Plan Float) : plan.Checked where
  valid := Plan.isValid_iff
  told := by
    refine ⟨plan.entities.map Entity.records,?_,?_⟩
    · rw [Plan.violations_eq,List.flatMap_def]
    · exact List.forall₂_map_right_iff.mpr (List.forall₂_same.mpr fun e _ => e.told_records)
  apart other before after e e' hplan hother := by
    refine ⟨before.flatMap Entity.records,e.records,e'.records,after.flatMap Entity.records,
      e.told_records,e'.told_records,?_,?_⟩
    · rw [Plan.violations_eq,hplan]
      simp
    · rw [Plan.violations_eq,hother]
      simp

end Blueprint
