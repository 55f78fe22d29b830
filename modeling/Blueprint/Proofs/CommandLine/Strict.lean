import Blueprint.CommandLine.Run
import Blueprint.Proofs.Layout.Severity

/-!
The status of a strict run. It tells that something in the plan can never be placed, and nothing
else: not that an id is repeated, that an opening names no wall, or that the passes ran out.
-/

namespace Blueprint

namespace CommandLine

/-- The run finds this plan in its source, its stylesheet loads, and its document is written. -/
structure Options.Completes (o : Options) (around : Surroundings) (plan : Plan Float) : Prop where
  plan : ∃ text name, sourceOf around o.file = .ok (text,name) ∧
    Plan.load o.planFormat text.toList = .ok plan
  sheet : ∃ sheet, sheetOf around.read o.stylesheet = .ok sheet
  written : o.output.bind around.refusal = none

variable {around : Surroundings} {o : Options}

theorem Options.Completes.unique {plan plan' : Plan Float} (h : o.Completes around plan)
    (h' : o.Completes around plan') : plan = plan' := by
  obtain ⟨text,name,hsource,hload⟩ := h.plan
  obtain ⟨text',name',hsource',hload'⟩ := h'.plan
  obtain ⟨rfl,rfl⟩ := Prod.mk.inj (Except.ok.inj (hsource.symm.trans hsource'))
  exact Except.ok.inj (hload.symm.trans hload')

/-- A run comes to its document from a stylesheet and a plan that load. -/
theorem prepare_eq_ok {job : Job} (h : prepare around o = .ok job) :
    ∃ sheet text name plan, sheetOf around.read o.stylesheet = .ok sheet ∧
      sourceOf around o.file = .ok (text,name) ∧ Plan.load o.planFormat text.toList = .ok plan ∧
        job.document = documentOf o sheet (plan.layout o.layoutConfig) ∧ job.target = o.output ∧
          job.status = if o.strict && (plan.layout o.layoutConfig).hasErrors then 2 else 0 := by
  unfold prepare at h
  cases hsheet : sheetOf around.read o.stylesheet with
  | error messages => simp [hsheet,bind,Except.bind] at h
  | ok sheet =>
    cases hsource : sourceOf around o.file with
    | error messages => simp [hsheet,hsource,bind,Except.bind] at h
    | ok source =>
      obtain ⟨text,name⟩ := source
      simp only [hsheet,hsource,bind,Except.bind] at h
      cases hload : Plan.load o.planFormat text.toList with
      | error errors => simp [hload] at h
      | ok plan =>
        simp only [hload,pure,Except.pure,Except.ok.injEq] at h
        subst h
        exact ⟨sheet,text,name,plan,rfl,rfl,hload,rfl,rfl,rfl⟩

theorem exists_prepare_eq_ok {sheet : Stylesheet} {text name : String} {plan : Plan Float}
    (hsheet : sheetOf around.read o.stylesheet = .ok sheet)
    (hsource : sourceOf around o.file = .ok (text,name))
    (hload : Plan.load o.planFormat text.toList = .ok plan) :
    ∃ job, prepare around o = .ok job := by
  simp [prepare,hsheet,hsource,hload,bind,Except.bind,pure,Except.pure]

/-- A document that cannot be written ends the run with a status of its own. -/
theorem status_conclude_eq_two_iff (job : Job) (refusal : String → Option String) :
    (job.conclude (job.target.bind refusal)).status = 2 ↔
      job.status = 2 ∧ job.target.bind refusal = none := by
  unfold Job.conclude
  split
  · simp_all
  · split <;> simp_all [Outcome.failed]

theorem status_run_eq_two_iff : (o.run around).status = 2 ↔ o.strict = true ∧
    ∃ plan, o.Completes around plan ∧ (plan.layout o.layoutConfig).hasErrors = true := by
  unfold Options.run
  cases hjob : prepare around o with
  | error messages =>
    refine iff_of_false (by simp [Outcome.failed]) ?_
    rintro ⟨_,plan,⟨⟨text,name,hsource,hload⟩,⟨sheet,hsheet⟩,_⟩,_⟩
    obtain ⟨job,hok⟩ := exists_prepare_eq_ok hsheet hsource hload
    rw [hjob] at hok
    cases hok
  | ok job =>
    obtain ⟨sheet,text,name,plan,hsheet,hsource,hload,_,htarget,hstatus⟩ := prepare_eq_ok hjob
    rw [status_conclude_eq_two_iff,hstatus,htarget]
    constructor
    · rintro ⟨hstatus,hwritten⟩
      have hfailed : o.strict = true ∧ (plan.layout o.layoutConfig).hasErrors = true := by
        simpa using hstatus
      exact ⟨hfailed.1,plan,⟨⟨text,name,hsource,hload⟩,⟨sheet,hsheet⟩,hwritten⟩,hfailed.2⟩
    · rintro ⟨hstrict,plan',hplan',herrors⟩
      have hplan : o.Completes around plan :=
        ⟨⟨text,name,hsource,hload⟩,⟨sheet,hsheet⟩,hplan'.written⟩
      obtain rfl := hplan.unique hplan'
      exact ⟨by simp [hstrict,herrors],hplan'.written⟩

end CommandLine

/-- The errors of the layouts of a plan, and what they make of a strict run. -/
structure Plan.StrictlyJudged (plan : Plan Float) : Prop where
  /-- There are errors exactly if something can never be placed or the policy refuses the plan. -/
  errors : ∀ config, (plan.layout config).hasErrors = true ↔ plan.Failing config
  /-- What is repeated, names no wall or is cut off is no error. -/
  tolerated : ∀ config, (∀ f ∈ (plan.layout config).failures,
    f.isDuplicate = true ∨ f.isWallReference = true ∨ f.isOutOfPasses = true) →
      ¬ plan.Failing config
  status : ∀ around (o : CommandLine.Options), o.Completes around plan →
    ((o.run around).status = 2 ↔ o.strict = true ∧ plan.Failing o.layoutConfig)
  /-- No other run ends with this status. -/
  onlyStrict : ∀ around (o : CommandLine.Options), (o.run around).status = 2 →
    o.strict = true ∧ ∃ plan', o.Completes around plan'
  /-- Whatever the bound on the passes, a room that never reaches the origin is named by an error,
  unless the whole plan is refused with an error. -/
  named : ∀ (config : LayoutConfig Float) (most : Nat), ∀ room ∈ plan.rooms,
    plan.NeverReachesOrigin room.id →
      ∃ f ∈ (plan.layout (config.within most)).failures, f.severity = .error ∧
        (room.id ∈ f.entities ∨ f = .noOrigin true)
  /-- An error that is told of a room under one bound is told under every bound. -/
  kept : ∀ (config : LayoutConfig Float) (most : Nat), ∀ f ∈ plan.roomFailures config,
    f.severity = .error → f ∈ (plan.layout (config.within most)).failures
  /-- The bound shows in the errors only by the rooms whose parts are looked at. -/
  told : ∀ (config : LayoutConfig Float) (most : Nat),
    (plan.layout (config.within most)).failures.filter Failure.isError =
      (originFailures config.originPolicy plan.rooms).filter Failure.isError ++
        plan.roomErrors config.originPolicy ++
          (plan.layout (config.within most)).rooms.flatMap plan.partErrors
  raised : ∀ (config : LayoutConfig Float) (most most' : Nat), most ≤ most' →
    ((plan.layout (config.within most)).failures.filter Failure.isError).Sublist
      ((plan.layout (config.within most')).failures.filter Failure.isError)

/-- A strict run fails exactly because something can never be placed. -/
theorem plan_strictlyJudged (plan : Plan Float) : plan.StrictlyJudged where
  errors config := hasErrors_layout_iff plan config
  tolerated config hall hfailing := by
    obtain ⟨f,hf,herror⟩ := List.any_eq_true.mp ((hasErrors_layout_iff plan config).mpr hfailing)
    have hkind := hall f hf
    cases f <;> simp_all [Failure.isDuplicate,Failure.isWallReference,Failure.isOutOfPasses,
      Failure.severity]
  status around o hcompletes := by
    rw [CommandLine.status_run_eq_two_iff,← hasErrors_layout_iff]
    refine and_congr_right fun _ => ⟨?_,fun herrors => ⟨plan,hcompletes,herrors⟩⟩
    rintro ⟨plan',hcompletes',herrors⟩
    exact hcompletes.unique hcompletes' ▸ herrors
  onlyStrict around o h := by
    obtain ⟨hstrict,plan',hcompletes,_⟩ := CommandLine.status_run_eq_two_iff.mp h
    exact ⟨hstrict,plan',hcompletes⟩
  named config most room hroom hlost := by
    by_cases hrefused : config.originPolicy = .require ∧ plan.Adrift
    · refine ⟨.noOrigin true,?_,rfl,Or.inr rfl⟩
      rw [failures_layout,failures_placePlan,originFailures_eq]
      simp [LayoutConfig.within,hrefused,OriginPolicy.advisory]
    · obtain ⟨f,hf,herror,hnamed⟩ :=
        exists_error_naming plan (config.within most) hroom hlost hrefused
      exact ⟨f,hf,herror,Or.inl hnamed⟩
  kept config most f hf herror := by
    have hroom : f ∈ plan.roomErrors config.originPolicy := by
      rw [← filter_isError_roomFailures]
      exact List.mem_filter.mpr ⟨hf,beq_iff_eq.mpr herror⟩
    have herrors : f ∈ (plan.layout (config.within most)).failures.filter Failure.isError := by
      rw [filter_isError_layout]
      exact List.mem_append_left _ (List.mem_append_right _ hroom)
    exact List.mem_of_mem_filter herrors
  told config most := filter_isError_layout plan (config.within most)
  raised config most most' h := filter_isError_layout_sublist plan config h

end Blueprint
