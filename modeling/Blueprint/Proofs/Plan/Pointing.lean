import Blueprint.Plan.Load
import Blueprint.Proofs.Document.Occurrence
import Blueprint.Proofs.Json.Number
import Blueprint.Proofs.Plan.Checks
import Mathlib.Data.List.Count
import Mathlib.Data.List.TakeWhile

/-!
Where violations are shown in the text of a plan. The name of what a violation is about begins with
the id of a room, and the place is where the beginning of this name, up to its first dot or blank,
stands in quotes. For an id without a dot or blank this is the id itself. Any other id is cut short:
its violations are shown at another name, or nowhere. The name of an opening begins with its kind,
so a violation about a door is shown at a room that is called by this word.
-/

namespace Blueprint

open Document (FirstAt Span StandsAt StandsWithin)

/-- A text in double quotes. -/
def inQuotes (text : List Char) : List Char := '"' :: text ++ ['"']

namespace Subject

/-- The id of the room that a violation is about, itself or through a part or furnishing. -/
def room? : Subject → Option String
  | room id => some id
  | part id _ => some id
  | roomFurnishing id _ => some id
  | partFurnishing id _ _ => some id
  | opening _ _ => none

/-- What the name of a subject begins with. -/
def owner : Subject → String
  | opening kind _ => kind.name
  | room id => id
  | part id _ => id
  | roomFurnishing id _ => id
  | partFurnishing id _ _ => id

end Subject

/-- An id that is searched for as it is. -/
structure WholeId (id : String) : Prop where
  ne_empty : id ≠ ""
  noDot : '.' ∉ id.toList
  noBlank : ' ' ∉ id.toList

/-! ### Leading ids -/

theorem takeWhile_append_stop {β : Type} {p : β → Bool} (l rest : List β) {b : β} (h : p b = false) :
    (l ++ b :: rest).takeWhile p = l.takeWhile p := by
  induction l with
  | nil => simp [h]
  | cons a l ih => cases ha : p a <;> simp [ha,ih]

namespace LoadError

theorem leadingId_of_append {name id : String} (stop : Char) (rest : List Char)
    (hstop : stop = '.' ∨ stop = ' ') (hname : name.toList = id.toList ++ stop :: rest) :
    leadingId name = leadingId id := by
  unfold leadingId
  rw [hname]
  refine takeWhile_append_stop _ _ ?_
  rcases hstop with rfl | rfl <;> rfl

/-- The name of a subject is cut where that of its owner is. -/
theorem leadingId_name (s : Subject) : leadingId s.name = leadingId s.owner := by
  cases s with
  | room id => rfl
  | part id p =>
    refine leadingId_of_append '.' p.toList (Or.inl rfl) ?_
    simp [Subject.name,Subject.owner,PartKey.text]
  | roomFurnishing id i =>
    refine leadingId_of_append ' ' ("object #".toList ++ (toString (i + 1)).toList) (Or.inr rfl) ?_
    simp [Subject.name,Subject.owner,toString]
  | partFurnishing id p i =>
    refine leadingId_of_append '.' (p.toList ++ " object #".toList ++ (toString (i + 1)).toList)
      (Or.inl rfl) ?_
    simp [Subject.name,Subject.owner,PartKey.text,toString]
  | opening kind i =>
    refine leadingId_of_append ' ' ('#' :: (toString (i + 1)).toList) (Or.inr rfl) ?_
    simp [Subject.name,Subject.owner,OpeningKind.ordinal,toString]

theorem leadingId_of_whole {id : String} (h : WholeId id) : leadingId id = id.toList := by
  refine List.takeWhile_eq_self_iff.mpr fun c hc => ?_
  have hdot : c ≠ '.' := fun he => h.noDot (he ▸ hc)
  have hblank : c ≠ ' ' := fun he => h.noBlank (he ▸ hc)
  simp [hdot,hblank]

theorem leadingId_ne_nil_of_whole {id : String} (h : WholeId id) : leadingId id ≠ [] := by
  rw [leadingId_of_whole h]
  exact fun hnil => h.ne_empty (String.toList_eq_nil_iff.mp hnil)

/-- An id that is not searched for as it is has lost a part. -/
theorem length_leadingId_lt {id : String} (h : ¬ WholeId id) (hne : leadingId id ≠ []) :
    (leadingId id).length < id.toList.length := by
  have hprefix : leadingId id <+: id.toList := List.takeWhile_prefix _
  refine Nat.lt_of_le_of_ne hprefix.length_le fun hlength => h ?_
  have hall : leadingId id = id.toList := hprefix.eq_of_length hlength
  have hpass := List.takeWhile_eq_self_iff.mp hall
  refine ⟨fun he => hne (by rw [he]; rfl),fun hdot => ?_,fun hblank => ?_⟩
  · exact absurd (hpass _ hdot) (by decide)
  · exact absurd (hpass _ hblank) (by decide)

end LoadError

/-! ### Quoted texts -/

/-- A quoted text is part of another, without a quote inside, only if they are the same. -/
theorem inQuotes_isInfix_iff {a name : List Char} (h : '"' ∉ name) :
    inQuotes a <:+: inQuotes name ↔ a = name := by
  constructor
  · rintro ⟨front,back,hsplit⟩
    -- Only two quotes are there to stand for those of `a`, so nothing is in front or behind.
    have hcount := congrArg (List.count '"') hsplit
    have hname : name.count '"' = 0 := List.count_eq_zero.mpr h
    simp only [inQuotes,List.count_append,List.count_cons_self,List.count_nil,hname] at hcount
    have hfront : front = [] := by
      cases front with
      | nil => rfl
      | cons c front =>
        obtain rfl : c = '"' := by simpa [inQuotes] using congrArg List.head? hsplit
        rw [List.count_cons_self] at hcount
        omega
    have hback : back = [] := by
      rcases List.eq_nil_or_concat back with hnil | ⟨init,c,rfl⟩
      · exact hnil
      · obtain rfl : c = '"' := by
          rw [List.concat_eq_append,← List.append_assoc] at hsplit
          exact (List.append_inj' hsplit rfl).2 |> List.singleton_inj.mp
        rw [List.count_concat_self] at hcount
        omega
    subst hfront hback
    simpa [inQuotes] using hsplit
  · rintro rfl
    exact List.infix_refl _

/-! ### Subjects -/

namespace Plan

theorem subject_of_mem_violations {plan : Plan Float} {v : Violation Float}
    (h : v ∈ plan.violations) : ∃ e ∈ plan.entities, v.subject = e.subject := by
  rw [violations_eq] at h
  obtain ⟨e,he,hv⟩ := List.mem_flatMap.mp h
  obtain ⟨p,_,rfl⟩ := List.mem_map.mp hv
  exact ⟨e,he,rfl⟩

theorem room?_of_mem_entities {r : Room Float} {e : Entity} (h : e ∈ r.entities) :
    e.subject.room? = some r.id := by
  simp only [Room.entities,Part.entities,furnishingEntities,List.mem_append,List.mem_cons,
    List.mem_flatMap,List.mem_mapIdx] at h
  rcases h with (rfl | ⟨i,_,rfl⟩) | ⟨p,_,rfl | ⟨i,_,rfl⟩⟩ <;> rfl

/-- A violation about a room is about one of the plan. -/
theorem exists_room_of_violation {plan : Plan Float} {v : Violation Float}
    (hv : v ∈ plan.violations) {id : String} (hid : v.subject.room? = some id) :
    ∃ room ∈ plan.rooms, room.id = id := by
  obtain ⟨e,he,hsubject⟩ := subject_of_mem_violations hv
  rw [hsubject] at hid
  simp only [entities,List.mem_append,List.mem_flatMap,List.mem_mapIdx] at he
  rcases he with (⟨r,hr,he⟩ | ⟨i,_,rfl⟩) | ⟨i,_,rfl⟩
  · exact ⟨r,hr,Option.some.inj ((room?_of_mem_entities he).symm.trans hid)⟩
  all_goals cases hid

end Plan

/-! ### Places of violations -/

namespace Violation

variable {source : List Char} {v : Violation Float}

theorem owner_of_room? {s : Subject} {id : String} (h : s.room? = some id) : s.owner = id := by
  cases s <;> first | exact Option.some.inj h | cases h

theorem span?_invalid : (LoadError.invalid v).span? source =
    if LoadError.leadingId v.subject.owner = [] then none
    else
      let quoted := inQuotes (LoadError.leadingId v.subject.owner)
      (Document.find? quoted source).map fun start =>
        ⟨start,start + Document.byteLength quoted⟩ := by
  simp only [LoadError.span?,LoadError.leadingId_name,List.isEmpty_iff]
  split
  · rfl
  · exact Option.map_eq_bind.symm

theorem span?_eq_some_iff {span : Span} : (LoadError.invalid v).span? source = some span ↔
    LoadError.leadingId v.subject.owner ≠ [] ∧
      FirstAt (inQuotes (LoadError.leadingId v.subject.owner)) source span := by
  rw [span?_invalid]
  split
  · rename_i hempty
    simp [hempty]
  · rename_i hne
    rw [Option.map_eq_some_iff,and_iff_right hne]
    constructor
    · rintro ⟨start,hstart,rfl⟩
      exact Document.firstAt_of_find? hstart
    · intro hfirst
      -- The place of a text begins somewhere and has as many bytes as the text.
      obtain ⟨before,_,_,rfl⟩ := hfirst.1
      exact ⟨_,Document.find?_eq_some_iff.mpr hfirst,rfl⟩

theorem span?_eq_none_iff : (LoadError.invalid v).span? source = none ↔
    LoadError.leadingId v.subject.owner = [] ∨
      ¬ inQuotes (LoadError.leadingId v.subject.owner) <:+: source := by
  rw [span?_invalid]
  split
  · rename_i hempty
    simp [hempty]
  · rename_i hne
    rw [Option.map_eq_none_iff,Document.find?_eq_none_iff,or_iff_right hne]

/-- Where a violation is shown in the text of its plan. -/
structure Shown (source : List Char) (plan : Plan Float) (v : Violation Float) : Prop where
  /-- What is about a room, its parts or their furnishings names a room of the plan. -/
  known : ∀ id, v.subject.room? = some id → ∃ room ∈ plan.rooms, room.id = id
  placed : ∀ span, (LoadError.invalid v).span? source = some span ↔
    LoadError.leadingId v.subject.owner ≠ [] ∧
      FirstAt (inQuotes (LoadError.leadingId v.subject.owner)) source span
  unplaced : (LoadError.invalid v).span? source = none ↔
    LoadError.leadingId v.subject.owner = [] ∨
      ¬ inQuotes (LoadError.leadingId v.subject.owner) <:+: source
  /-- A room whose id has no dot and no blank is found wherever it stands in quotes. -/
  whole : ∀ id, v.subject.room? = some id → WholeId id →
    ((LoadError.invalid v).span? source = none ↔ ¬ inQuotes id.toList <:+: source) ∧
    ∀ span, (LoadError.invalid v).span? source = some span →
      FirstAt (inQuotes id.toList) source span
  /-- Any other id stands nowhere in the place that is shown. -/
  cut : ∀ id, v.subject.room? = some id → ¬ WholeId id →
    ∀ span, (LoadError.invalid v).span? source = some span →
      ¬ StandsWithin (inQuotes id.toList) source span
  /-- An opening is shown at a room only if the room is called by the word for the opening. -/
  opening : ∀ kind index, v.subject = .opening kind index →
    ∀ span, (LoadError.invalid v).span? source = some span →
      ∀ id : String, StandsWithin (inQuotes id.toList) source span ↔ id = kind.name

theorem shown {plan : Plan Float} (source : List Char) (hv : v ∈ plan.violations) :
    v.Shown source plan where
  known _ hid := Plan.exists_room_of_violation hv hid
  placed _ := span?_eq_some_iff
  unplaced := span?_eq_none_iff
  whole id hid hwhole := by
    rw [span?_eq_none_iff,owner_of_room? hid,LoadError.leadingId_of_whole hwhole]
    refine ⟨?_,fun span hspan => ?_⟩
    · rw [or_iff_right]
      rw [← LoadError.leadingId_of_whole hwhole]
      exact LoadError.leadingId_ne_nil_of_whole hwhole
    · obtain ⟨_,hfirst⟩ := span?_eq_some_iff.mp hspan
      rwa [owner_of_room? hid,LoadError.leadingId_of_whole hwhole] at hfirst
  cut id hid hcut span hspan hwithin := by
    obtain ⟨hne,hstands,_⟩ := span?_eq_some_iff.mp hspan
    rw [owner_of_room? hid] at hne hstands
    have hlength := (hstands.isInfix_of_within hwithin).length_le
    have hlt := LoadError.length_leadingId_lt hcut hne
    simp only [inQuotes,List.length_append,List.length_cons] at hlength
    omega
  opening kind index hsubject span hspan id := by
    have howner : v.subject.owner = kind.name := by rw [hsubject]; rfl
    have hwhole : WholeId kind.name := by cases kind <;> exact ⟨by decide,by decide,by decide⟩
    have hquotes : '"' ∉ kind.name.toList := by cases kind <;> decide
    obtain ⟨_,hstands,_⟩ := span?_eq_some_iff.mp hspan
    rw [howner,LoadError.leadingId_of_whole hwhole] at hstands
    constructor
    · intro hwithin
      have hinfix := hstands.isInfix_of_within hwithin
      exact String.toList_inj.mp ((inQuotes_isInfix_iff hquotes).mp hinfix)
    · rintro rfl
      exact hstands.within

end Violation

/-- What is wrong with a plan that is not valid is told in full, and where it is shown. -/
theorem violations_shown {format : PlanFormat} {source : List Char} {plan : Plan Float}
    (hread : Plan.decode format source = .ok plan) (hvalid : plan.isValid = false) :
    Plan.load format source = .error (plan.violations.map .invalid) ∧
      ∀ v ∈ plan.violations, v.Shown source plan := by
  refine ⟨?_,fun v hv => v.shown source hv⟩
  rw [Plan.load,hread]
  simp [hvalid]

/-! ### A room that is not found -/

def livingText : String :=
  "\x7b\"rooms\": [\x7b\"id\": \"living room\", \"attachTo\": \"zeropoint:top-left\", " ++
    "\"width\": 0, \"depth\": 1000\x7d]\x7d"

/-- A room without a width, whose id has a blank. -/
def livingPlan : Plan Float where
  rooms := [{
    id := "living room"
    name := none
    width := 0
    depth := 1000
    anchor := .topLeft
    attachTo := ⟨"zeropoint",.topLeft⟩
    offset := (0,0)
    parts := []
    furnishings := [] }]
  doors := []
  windows := []

theorem decode_livingText : Plan.decode .json livingText.toList = .ok livingPlan :=
  Json.eq_ok_of_toOption (by decide +kernel)

theorem isValid_livingPlan : livingPlan.isValid = false := by decide +kernel

theorem violations_shown_living :
    Plan.decode .json livingText.toList = .ok livingPlan ∧ livingPlan.isValid = false ∧
    Plan.load .json livingText.toList = .error (livingPlan.violations.map .invalid) ∧
    ∀ v ∈ livingPlan.violations, v.Shown livingText.toList livingPlan :=
  ⟨decode_livingText,isValid_livingPlan,violations_shown decode_livingText isValid_livingPlan⟩

/-- What is wrong with the room is shown nowhere, though its id stands in the text. -/
theorem violations_unplaced_living :
    Plan.decode .json livingText.toList = .ok livingPlan ∧ livingPlan.isValid = false ∧
    ∃ v ∈ livingPlan.violations, v.subject = .room "living room" ∧
      inQuotes "living room".toList <:+: livingText.toList ∧
      (LoadError.invalid v).span? livingText.toList = none := by
  refine ⟨decode_livingText,isValid_livingPlan,⟨.room "living room",.notPositive .width 0⟩,?_,rfl,
    ?_,?_⟩
  · decide +kernel
  · decide +kernel
  · decide +kernel

end Blueprint
