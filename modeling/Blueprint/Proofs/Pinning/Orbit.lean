import Blueprint.Proofs.Pinning.CycleReport

/-!
Where the searches along attachments end. Followed from a declared id, attachments form an orbit: it
reaches the reserved name or a name that is declared nowhere, or it comes round to an id met before,
which need not be the first one. Main statement: both searches stop within as many ids as are
declared, and tell which of these came first.
-/

namespace Blueprint
namespace Pinning

variable {α : Type} {ns : Namespace α} {table : List (Block α)}

/-- The orbit of an id up to some member: each next id is what the one before is attached to, and
none comes twice. -/
structure Orbit (ns : Namespace α) (table : List (Block α)) (start : String)
    (path : List String) (last : String) : Prop where
  head : path.head? = some start
  chain : path.IsChain (AttachedTo ns table)
  nodup : path.Nodup
  last : path.getLast? = some last

theorem Walk.exists_orbit {stop : String → Prop} {start : String} {path : List String}
    (h : Walk ns table stop start path) : ∃ last, Orbit ns table start path last ∧ stop last := by
  have hparts : path.head? = some start ∧ path.IsChain (AttachedTo ns table) ∧
      ∃ last, path.getLast? = some last ∧ stop last := by
    induction h with
    | @done id _ hstop => exact ⟨rfl,List.isChain_singleton _,id,rfl,hstop⟩
    | @step id target path _ hatt hwalk ih =>
      obtain ⟨hhead,hchain,last,hlast,hstop⟩ := ih
      obtain ⟨rest,rfl⟩ := List.head?_eq_some_iff.mp hhead
      exact ⟨rfl,List.isChain_cons_cons.mpr ⟨hatt,hchain⟩,last,by simpa using hlast,hstop⟩
  obtain ⟨hhead,hchain,last,hlast,hstop⟩ := hparts
  exact ⟨last,⟨hhead,hchain,h.nodup,hlast⟩,hstop⟩

namespace Orbit

variable {start last : String} {path front : List String}

theorem leadsTo (h : Orbit ns table start path last) : LeadsTo ns table start last := by
  obtain ⟨rest,rfl⟩ := List.head?_eq_some_iff.mp h.head
  refine List.relationReflTransGen_of_exists_isChain_cons rest h.chain ?_
  exact Option.some.inj ((List.getLast?_eq_some_getLast _).symm.trans h.last)

/-- What comes before the last member is an orbit, too. -/
theorem init {before : String} (h : Orbit ns table start (front ++ [before] ++ [last]) last) :
    Orbit ns table start (front ++ [before]) before ∧ AttachedTo ns table before last ∧
      last ∉ front ++ [before] := by
  obtain ⟨hchain,_,hatt⟩ := List.isChain_append.mp h.chain
  obtain ⟨hnodup,_,hfresh⟩ := List.nodup_append.mp h.nodup
  refine ⟨⟨?_,hchain,hnodup,by simp⟩,hatt before (by simp) last (by simp),fun hmem => ?_⟩
  · have hhead := h.head
    rwa [List.head?_append_of_ne_nil _ (by simp)] at hhead
  · exact hfresh last hmem last (by simp) rfl

theorem mem_ids (h : Orbit ns table start (front ++ [last]) last) (hlast : last ∈ ids table) :
    ∀ x ∈ front ++ [last], x ∈ ids table := by
  induction front using List.reverseRecOn generalizing last with
  | nil => simpa using hlast
  | append_singleton front before ih =>
    obtain ⟨hinit,hatt,_⟩ := h.init
    exact List.forall_mem_append.mpr ⟨ih hinit hatt.mem_ids,by simpa using hlast⟩

end Orbit

/-- A declared block that is not attached to the reserved name is attached to another. -/
theorem exists_attachedTo {id : String} (h : id ∈ ids table) (hr : ¬ AtReserved ns table id) :
    ∃ target, AttachedTo ns table id target := by
  obtain ⟨b,hb⟩ := Option.isSome_iff_exists.mp (isSome_declared?.mpr h)
  exact ⟨_,b,hb,fun he => hr ⟨b,hb,he⟩,rfl⟩

/-- An id from which the attachments go astray is on no cycle. -/
theorem not_onCycle_of_leadsTo {start x : String} (hlead : LeadsTo ns table start x)
    (h : AtReserved ns table x ∨ (∃ target, AttachedTo ns table x target ∧ target ∉ ids table) ∨
      (OnCycle ns table x ∧ ¬ LeadsTo ns table x start)) : ¬ OnCycle ns table start := by
  intro hcycle
  have hx := hcycle.of_leadsTo hlead
  obtain ⟨_,hatt,_⟩ := Relation.TransGen.head'_iff.mp hx
  rcases h with hr | ⟨target',hatt',hno⟩ | ⟨_,hno⟩
  · exact hatt.not_atReserved hr
  · exact hno (hx.target_mem_ids hatt')
  · exact hno (hcycle.leadsTo_back hlead)

variable [Scalar α] {places : Places α} {goal : Target α → Bool} {start last : String}
  {front : List String}

/-! ### The states of a search -/

theorem Visits.orbit (h : Visits ns table goal start front last) :
    Orbit ns table start (front ++ [last]) last := by
  have hparts : (front ++ [last]).head? = some start ∧
      (front ++ [last]).IsChain (AttachedTo ns table) := by
    induction h with
    | start => exact ⟨rfl,List.isChain_singleton _⟩
    | onward _ hstep ih =>
      obtain ⟨_,hatt,_⟩ := step_eq_onward_iff.mp hstep
      refine ⟨?_,List.isChain_append.mpr ⟨ih.2,List.isChain_singleton _,by simpa using hatt⟩⟩
      rw [List.head?_append_of_ne_nil _ (by simp),ih.1]
  exact ⟨hparts.1,hparts.2,h.nodup,by simp⟩

/-- A search follows the orbit for as long as it meets declared ids, none of which is attached to
what it is after. -/
theorem visits_of_orbit (h : Orbit ns table start (front ++ [last]) last)
    (hmem : ∀ x ∈ front ++ [last], x ∈ ids table) (hgo : ∀ x ∈ front, ¬ Arrives ns table goal x) :
    Visits ns table goal start front last := by
  induction front using List.reverseRecOn generalizing last with
  | nil =>
    obtain rfl : last = start := by simpa using h.head
    exact .start
  | append_singleton front before ih =>
    obtain ⟨hinit,hatt,hfresh⟩ := h.init
    rw [List.forall_mem_append] at hmem hgo
    have hbefore := ih hinit hmem.1 hgo.1
    exact .onward hbefore (step_eq_onward_iff.mpr ⟨by simpa using hgo.2,hatt,by simpa using hmem.2,
      hfresh⟩)

/-! ### The outcomes -/

/-- How the searches from a declared id go. -/
structure SearchesEnd (ns : Namespace α) (table : List (Block α)) (places : Places α)
    (start : String) : Prop where
  /-- Whatever a search is after, it meets declared ids, each once, and so no more than there are. -/
  bounded : ∀ (goal : Target α → Bool) (front : List String) (current : String),
    Visits ns table goal start front current →
    (front ++ [current]).Nodup ∧ (∀ x ∈ front ++ [current], x ∈ ids table) ∧
      (front ++ [current]).length ≤ table.length
  /-- One of its states is the last, and tells the outcome. -/
  ends : ∀ goal : Target α → Bool, ∃ front last, Visits ns table goal start front last ∧
    (step ns table goal (front ++ [last]) last = .arrived ∧
        follow ns table goal [start] start = some (front ++ [last]) ∨
      step ns table goal (front ++ [last]) last = .lost ∧
        follow ns table goal [start] start = none)
  /-- A cycle is found exactly if the attachments lead back to the start. -/
  cycle : (∃ path, cycleThrough ns table start = some path) ↔ OnCycle ns table start
  /-- What is found is the orbit up to the return to the start. -/
  round : ∀ path, cycleThrough ns table start = some path ↔
    ∃ last, Orbit ns table start path last ∧ AttachedTo ns table last start
  /-- Nothing is found where the attachments lead to the reserved name, to a name that is declared
  nowhere, or into a cycle that does not hold the start. -/
  astray : ∀ x, LeadsTo ns table start x →
    AtReserved ns table x ∨ (∃ target, AttachedTo ns table x target ∧ target ∉ ids table) ∨
      (OnCycle ns table x ∧ ¬ LeadsTo ns table x start) → cycleThrough ns table start = none
  /-- Something placed is found exactly if the orbit reaches the reserved name or a placed target. -/
  placed : leadsToPlace ns table places start = true ↔
    ∃ path last, Orbit ns table start path last ∧ (AtReserved ns table last ∨
      ∃ target, AttachedTo ns table last target ∧ places.has target = true)
  /-- It is not found exactly if the orbit reaches before a name that is declared nowhere, or an id
  for the second time. -/
  unplaced : leadsToPlace ns table places start = false ↔
    ∃ path last, Orbit ns table start path last ∧
      (∀ x ∈ path, ¬ AtReserved ns table x ∧
        ∀ target, AttachedTo ns table x target → places.has target = false) ∧
      ∃ target, AttachedTo ns table last target ∧ (target ∉ ids table ∨ target ∈ path)

theorem targetKnown_iff {id : String} : TargetKnown ns table places id ↔
    AtReserved ns table id ∨ ∃ target, AttachedTo ns table id target ∧ places.has target = true := by
  rw [← arrives_knows_iff]
  constructor
  · rintro ⟨target,htarget,hknown⟩
    cases target with
    | block target => exact Or.inr ⟨target,attachedTo_iff.mpr htarget,hknown⟩
    | fixed =>
      obtain ⟨b,hb,hc⟩ := Option.map_eq_some_iff.mp htarget
      exact Or.inl ⟨b,hb,(Namespace.classify_eq_fixed.mp hc).1⟩
  · rintro (⟨b,hb,hreserved⟩ | ⟨target,hatt,hplaced⟩)
    · exact ⟨.fixed ns.anchorRect,by simp [attached?,hb,hreserved],rfl⟩
    · exact ⟨.block target,attachedTo_iff.mp hatt,hplaced⟩

theorem not_targetKnown_iff {id : String} : ¬ TargetKnown ns table places id ↔
    ¬ AtReserved ns table id ∧ ∀ target, AttachedTo ns table id target →
      places.has target = false := by
  simp [targetKnown_iff]

theorem leadsToPlace_iff_orbit : leadsToPlace ns table places start = true ↔
    ∃ path last, Orbit ns table start path last ∧ TargetKnown ns table places last := by
  rw [leadsToPlace_iff]
  constructor
  · rintro ⟨path,hwalk⟩
    obtain ⟨last,horbit,hknown⟩ := hwalk.exists_orbit
    exact ⟨path,last,horbit,hknown⟩
  · rintro ⟨path,last,horbit,hknown⟩
    obtain ⟨b,hb,_⟩ := id hknown
    exact exists_walk_of_leadsTo horbit.leadsTo (mem_ids_of_declared? hb) hknown

theorem leadsToPlace_eq_false_iff (h : start ∈ ids table) :
    leadsToPlace ns table places start = false ↔
      ∃ path last, Orbit ns table start path last ∧
        (∀ x ∈ path, ¬ TargetKnown ns table places x) ∧
        ∃ target, AttachedTo ns table last target ∧ (target ∉ ids table ∨ target ∈ path) := by
  have hnone : leadsToPlace ns table places start = false ↔
      follow ns table places.knows [start] start = none := by
    rw [leadsToPlace,Option.isSome_eq_false_iff,Option.isNone_iff_eq_none]
  rw [hnone]
  constructor
  · intro hfollow
    obtain ⟨front,last,hvisits,⟨_,hsome⟩ | ⟨hlost,_⟩⟩ :=
      (Visits.start : Visits ns table places.knows start [] start).exists_last
        (rfl : [start] = [] ++ [start])
    · cases hfollow.symm.trans hsome
    · obtain ⟨hgo,hmet⟩ := step_eq_lost_iff.mp hlost
      have hunknown : ∀ x ∈ front ++ [last], ¬ TargetKnown ns table places x :=
        List.forall_mem_append.mpr ⟨fun x hx => mt arrives_knows_iff.mpr (hvisits.not_arrives x hx),
          by simpa using mt arrives_knows_iff.mpr hgo⟩
      have hlast := hvisits.mem_ids h last (by simp)
      obtain ⟨target,hatt⟩ :=
        exists_attachedTo hlast (not_targetKnown_iff.mp (hunknown last (by simp))).1
      refine ⟨_,last,hvisits.orbit,hunknown,target,hatt,?_⟩
      exact Classical.or_iff_not_imp_left.mpr fun hdeclared => hmet target hatt (not_not.mp hdeclared)
  · rintro ⟨path,last,horbit,hgo,target,hatt,hend⟩
    obtain ⟨front,rfl⟩ := List.getLast?_eq_some_iff.mp horbit.last
    have hunknown : ∀ x ∈ front ++ [last], ¬ Arrives ns table places.knows x :=
      fun x hx => mt arrives_knows_iff.mp (hgo x hx)
    have hvisits := visits_of_orbit horbit (horbit.mem_ids hatt.mem_ids)
      (List.forall_mem_append.mp hunknown).1
    have hlost : step ns table places.knows (front ++ [last]) last = .lost :=
      step_eq_lost_iff.mpr ⟨hunknown last (by simp),fun next hnext hdeclared => by
        obtain rfl := hatt.unique hnext
        exact hend.resolve_left (not_not_intro hdeclared)⟩
    rw [Option.eq_none_iff_forall_ne_some]
    exact fun path hpath => hvisits.not_walk_of_lost hlost (follow_eq_some_iff.mp hpath)

theorem cycleThrough_eq_some_iff_orbit {path : List String} :
    cycleThrough ns table start = some path ↔
      ∃ last, Orbit ns table start path last ∧ AttachedTo ns table last start := by
  rw [cycleThrough_eq_some_iff]
  constructor
  · exact Walk.exists_orbit
  · rintro ⟨last,horbit,hatt⟩
    obtain ⟨rest,rfl⟩ := List.head?_eq_some_iff.mp horbit.head
    refine walk_iff_isChain.mpr ⟨(List.nodup_cons.mp horbit.nodup).1,?_⟩
    rw [← List.cons_append]
    refine List.isChain_append.mpr ⟨horbit.chain,List.isChain_singleton _,?_⟩
    simpa [horbit.last] using hatt

/-- The searches from a declared id come to an end, each with the right answer. -/
theorem searches_end (places : Places α) (h : start ∈ ids table) :
    SearchesEnd ns table places start where
  bounded goal front current hvisits := ⟨hvisits.nodup,hvisits.mem_ids h,hvisits.length_le h⟩
  ends goal := Visits.start.exists_last (rfl : [start] = [] ++ [start])
  cycle := isSome_cycleThrough_iff
  round _ := cycleThrough_eq_some_iff_orbit
  astray x hlead hx := cycleThrough_eq_none_iff.mpr (not_onCycle_of_leadsTo hlead hx)
  placed := by simpa only [targetKnown_iff] using leadsToPlace_iff_orbit
  unplaced := by simpa only [not_targetKnown_iff] using leadsToPlace_eq_false_iff h

/-- A search that runs into a cycle which does not hold its start. -/
theorem searches_end_tail :
    "tail" ∈ ids (firstDeclared tangle) ∧
    cycleThrough .rooms (firstDeclared tangle) "tail" = none ∧
    cycleThrough .rooms (firstDeclared tangle) "left" = some ["left","right"] ∧
    leadsToPlace .rooms (firstDeclared tangle) [] "tail" = false ∧
    SearchesEnd .rooms (firstDeclared tangle) [] "tail" :=
  ⟨by decide +kernel,by decide +kernel,by decide +kernel,by decide +kernel,
    searches_end [] (by decide +kernel)⟩

end Pinning
end Blueprint
