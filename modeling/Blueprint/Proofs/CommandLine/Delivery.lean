import Blueprint.CommandLine.Directory
import Blueprint.Proofs.CommandLine.Reporting
import Blueprint.Proofs.CommandLine.Strict
import Blueprint.Rendering

/-!
What a run leaves behind. It is nothing at all, or one document: that of the rendering which the
options ask for, in the file that they name or in the output. Switches that only report change
neither the document nor where it goes.
-/

namespace Blueprint.CommandLine

/-! ### What is asked for -/

namespace Options

/-- The text of the plan is in the file that is named, or else it is typed in. -/
def Reads (o : Options) (around : Surroundings) (text : String) : Prop :=
  match o.file with
  | none => around.input = .ok text
  | some path => around.read path = .ok text

/-- The stylesheet is the standard one, under the one of the file that is named. -/
def Uses (o : Options) (around : Surroundings) (sheet : Stylesheet) : Prop :=
  match o.stylesheet with
  | none => sheet = .standard
  | some path => ∃ source own, around.read path = .ok source ∧
      Stylesheet.ofText source.toList = .ok own ∧ sheet = Stylesheet.standard.overlay own

/-- A rendering of a text has the settings that the options of a run ask for. It does not matter
which of its two switches draws the seams, and whether it comes with warnings. -/
structure AskFor (o : Options) (around : Surroundings) (r : Rendering) (text : String) : Prop where
  reads : o.Reads around text
  format : r.format = match o.inputFormat with
    | some format => format
    | none => .ofExtension (o.file.bind extension?)
  layout : r.layout = { LayoutConfig.standard with
    maxPasses := o.maxPasses.getD 20
    originPolicy := o.originPolicy.getD .warn
    padding := o.padding.getD LayoutConfig.standard.padding }
  drawing : { r.svg with debug := r.svg.debug || r.debug } = { Svg.Config.standard with
    scale := o.scale.getD Svg.Config.standard.scale
    debug := o.debug }
  uses : o.Uses around r.stylesheet

/-- The document of a rendering in the format that a run writes. -/
def documentBy (o : Options) (r : Rendering) (text : String) : Except (List LoadError) String :=
  match o.format with
  | none | some .svg => r.toSvg text.toList
  | some .json => r.toJson text.toList

/-- Two command lines leave the same behind, statuses and messages aside. -/
def DeliverAlike (o o' : Options) : Prop :=
  ∀ around, (o.run around).output = (o'.run around).output ∧
    (o.run around).written = (o'.run around).written

end Options

/-- Two lists of words hold the same arguments, switches that only report aside. -/
def AskAlike (words words' : List String) : Prop :=
  ∃ arguments arguments', readArguments none words = .ok arguments ∧
    readArguments none words' = .ok arguments' ∧
      arguments.filter (!·.reports) = arguments'.filter (!·.reports)

/-- A run leaves one document, in a file or in the output, and nothing else. -/
def Outcome.Holds (outcome : Outcome) (document : String) (target : Option String) : Prop :=
  match target with
  | none => outcome.output = document ++ "\n" ∧ outcome.written = none
  | some path => outcome.output = "" ∧ outcome.written = some (path,document)

/-! ### Runs -/

section Run

variable {around : Surroundings} {o o' : Options}

theorem sheetOf_eq_ok_iff {sheet : Stylesheet} :
    sheetOf around.read o.stylesheet = .ok sheet ↔ o.Uses around sheet := by
  unfold sheetOf Options.Uses
  cases o.stylesheet with
  | none => simp [eq_comm]
  | some path =>
    cases hread : around.read path with
    | error e => simp [hread]
    | ok source =>
      cases hown : Stylesheet.ofText source.toList <;> simp [hread,hown,eq_comm]

theorem exists_sourceOf_iff {text : String} :
    (∃ name, sourceOf around o.file = .ok (text,name)) ↔ o.Reads around text := by
  unfold sourceOf Options.Reads
  cases o.file with
  | none => cases around.input <;> simp
  | some path => cases hread : around.read path <;> simp [hread]

/-- The options of a run are the settings of a rendering. -/
def Options.rendering (o : Options) (sheet : Stylesheet) : Rendering where
  format := o.planFormat
  layout := o.layoutConfig
  svg := o.svgConfig
  stylesheet := sheet
  debug := o.debug
  lint := o.lint

theorem askFor_rendering {sheet : Stylesheet} {text : String} (hsheet : o.Uses around sheet)
    (htext : o.Reads around text) : o.AskFor around (o.rendering sheet) text where
  reads := htext
  format := by cases hformat : o.inputFormat <;> simp [Options.rendering,Options.planFormat,hformat]
  layout := rfl
  drawing := by simp [Options.rendering,Options.svgConfig]
  uses := hsheet

theorem documentBy_rendering (sheet : Stylesheet) {text : String} {plan : Plan Float}
    (hload : Plan.load o.planFormat text.toList = .ok plan) :
    (o.rendering sheet).layoutOf text.toList = .ok (plan.layout o.layoutConfig) ∧
      o.documentBy (o.rendering sheet) text =
        .ok (documentOf o sheet (plan.layout o.layoutConfig)) := by
  have hlayout : (o.rendering sheet).layoutOf text.toList =
      .ok (plan.layout o.layoutConfig) := congrArg (Except.map _) hload
  have hdraw : (o.rendering sheet).draw = fun layout => layout.svg o.svgConfig sheet := by
    funext layout
    simp [Rendering.draw,Options.rendering,Options.svgConfig]
  refine ⟨hlayout,?_⟩
  unfold Options.documentBy documentOf Rendering.toSvg Rendering.toJson
  rw [hlayout,hdraw]
  cases o.format with
  | none => rfl
  | some format => cases format <;> rfl

theorem Options.Reads.unique {text text' : String} (h : o.Reads around text)
    (h' : o.Reads around text') : text = text' := by
  unfold Reads at h h'
  cases hfile : o.file <;> simp_all

theorem Options.Uses.unique {sheet sheet' : Stylesheet} (h : o.Uses around sheet)
    (h' : o.Uses around sheet') : sheet = sheet' :=
  Except.ok.inj ((sheetOf_eq_ok_iff.mpr h).symm.trans (sheetOf_eq_ok_iff.mpr h'))

/-- All renderings that are asked for are alike. -/
theorem Options.AskFor.alike {r r' : Rendering} {text text' : String} (h : o.AskFor around r text)
    (h' : o.AskFor around r' text') : r.layoutOf text.toList = r'.layoutOf text'.toList ∧
      o.documentBy r text = o.documentBy r' text' := by
  obtain rfl := h.reads.unique h'.reads
  have hlayout : r.layoutOf = r'.layoutOf := by
    funext source
    rw [Rendering.layoutOf,Rendering.layoutOf,h.format,h'.format,h.layout,h'.layout]
  have hdraw : r.draw = r'.draw := by
    funext layout
    rw [Rendering.draw,Rendering.draw,h.drawing,h'.drawing,h.uses.unique h'.uses]
  unfold documentBy Rendering.toSvg Rendering.toJson
  rw [hlayout,hdraw]
  exact ⟨rfl,rfl⟩

/-- The run leaves nothing but messages. -/
structure Options.Fails (o : Options) (around : Surroundings) : Prop where
  completes : ∀ plan, ¬ o.Completes around plan
  status : (o.run around).status = 1
  output : (o.run around).output = ""
  written : (o.run around).written = none

theorem Options.Fails.of_run_eq {messages : String} (hrun : o.run around = .failed messages)
    (hnone : ∀ plan, ¬ o.Completes around plan) : o.Fails around where
  completes := hnone
  status := congrArg Outcome.status hrun
  output := congrArg Outcome.output hrun
  written := congrArg Outcome.written hrun

/-- The run leaves the document of a plan that it finds in a text. -/
structure Options.Finishes (o : Options) (around : Surroundings) (sheet : Stylesheet)
    (text : String) (plan : Plan Float) : Prop where
  uses : o.Uses around sheet
  reads : o.Reads around text
  load : Plan.load o.planFormat text.toList = .ok plan
  completes : o.Completes around plan
  holds : (o.run around).Holds (documentOf o sheet (plan.layout o.layoutConfig)) o.output
  status : (o.run around).status =
    if o.strict && (plan.layout o.layoutConfig).hasErrors then 2 else 0

theorem run_cases (around : Surroundings) (o : Options) :
    o.Fails around ∨ ∃ sheet text plan, o.Finishes around sheet text plan := by
  cases hjob : prepare around o with
  | error messages =>
    have hrun : o.run around = .failed messages := by rw [Options.run,hjob]
    refine Or.inl (.of_run_eq hrun ?_)
    rintro plan ⟨⟨text,name,hsource,hload⟩,⟨sheet,hsheet⟩,_⟩
    obtain ⟨job,hok⟩ := exists_prepare_eq_ok hsheet hsource hload
    rw [hjob] at hok
    cases hok
  | ok job =>
    obtain ⟨sheet,text,name,plan,hsheet,hsource,hload,hdocument,htarget,hstatus⟩ :=
      prepare_eq_ok hjob
    have hrun : o.run around = job.conclude (o.output.bind around.refusal) := by
      rw [Options.run,hjob,← htarget]
    cases hrefusal : o.output.bind around.refusal with
    | none =>
      have houtcome : (o.run around).Holds job.document o.output ∧
          (o.run around).status = job.status := by
        rw [hrun,hrefusal,Job.conclude,htarget]
        cases o.output <;> exact ⟨⟨rfl,rfl⟩,rfl⟩
      exact Or.inr ⟨sheet,text,plan,
        { uses := sheetOf_eq_ok_iff.mp hsheet
          reads := exists_sourceOf_iff.mp ⟨name,hsource⟩
          load := hload
          completes := ⟨⟨text,name,hsource,hload⟩,⟨sheet,hsheet⟩,hrefusal⟩
          holds := hdocument ▸ houtcome.1
          status := houtcome.2.trans hstatus }⟩
    | some reason =>
      obtain ⟨path,houtput,_⟩ := Option.bind_eq_some_iff.mp hrefusal
      rw [hrefusal,Job.conclude,htarget,houtput] at hrun
      refine Or.inl (.of_run_eq hrun fun plan hplan => ?_)
      simpa [hrefusal] using hplan.written

theorem Options.Finishes.status_ne_one {sheet : Stylesheet} {text : String} {plan : Plan Float}
    (h : o.Finishes around sheet text plan) : (o.run around).status ≠ 1 := by
  rw [h.status]
  split <;> decide

theorem Outcome.Holds.alike {outcome outcome' : Outcome} {document : String}
    {target : Option String} (h : outcome.Holds document target)
    (h' : outcome'.Holds document target) :
    outcome.output = outcome'.output ∧ outcome.written = outcome'.written := by
  cases target <;> exact ⟨h.1.trans h'.1.symm,h.2.trans h'.2.symm⟩

/-- What only reports changes nothing that is left behind. -/
theorem deliverAlike_mute (o : Options) : o.DeliverAlike o.mute := by
  intro around
  have hcompletes {plan : Plan Float} : o.mute.Completes around plan ↔ o.Completes around plan :=
    ⟨fun ⟨hplan,hsheet,hwritten⟩ => ⟨hplan,hsheet,hwritten⟩,
      fun ⟨hplan,hsheet,hwritten⟩ => ⟨hplan,hsheet,hwritten⟩⟩
  rcases run_cases around o with h | ⟨sheet,text,plan,h⟩
  · rcases run_cases around o.mute with h' | ⟨_,_,plan',h'⟩
    · exact ⟨h.output.trans h'.output.symm,h.written.trans h'.written.symm⟩
    · exact absurd (hcompletes.mp h'.completes) (h.completes plan')
  · rcases run_cases around o.mute with h' | ⟨sheet',text',plan',h'⟩
    · exact absurd (hcompletes.mpr h.completes) (h'.completes plan)
    · obtain rfl : sheet' = sheet := Options.Uses.unique (o := o) h'.uses h.uses
      obtain rfl : plan' = plan := h.completes.unique (hcompletes.mp h'.completes) ▸ rfl
      exact h.holds.alike h'.holds

theorem Options.DeliverAlike.of_mute_eq (h : o.mute = o'.mute) : o.DeliverAlike o' := by
  intro around
  obtain ⟨houtput,hwritten⟩ := deliverAlike_mute o around
  obtain ⟨houtput',hwritten'⟩ := deliverAlike_mute o' around
  rw [houtput,hwritten,houtput',hwritten',h]
  exact ⟨rfl,rfl⟩

end Run

/-! ### Command lines -/

/-- What the runs of a command line leave behind, whatever they find outside. -/
structure Options.AllOrNothing (words : List String) (o : Options) : Prop where
  /-- The status is one for a run that does not complete, and only for that. -/
  failed : ∀ around, (o.run around).status = 1 ↔ ∀ plan, ¬ o.Completes around plan
  /-- A run that fails leaves no output and no file. -/
  nothing : ∀ around, (o.run around).status = 1 →
    (o.run around).output = "" ∧ (o.run around).written = none
  /-- Any other run leaves the one document of all renderings that it asks for. Its status is two if
  it is strict and the layout has errors, and else zero. -/
  document : ∀ around, (o.run around).status ≠ 1 → ∃ layout document,
    (∃ r text, o.AskFor around r text) ∧
    (∀ r text, o.AskFor around r text →
      r.layoutOf text.toList = .ok layout ∧ o.documentBy r text = .ok document) ∧
    (o.run around).Holds document o.output ∧
    (o.run around).status = if o.strict = true ∧ layout.hasErrors = true then 2 else 0
  /-- In a directory the outcome of a run is that with what it finds there. -/
  outcome : ∀ (d : Directory) input filter,
    (d.run input filter o).1 = o.run (d.surroundings input filter)
  /-- The directory is as before if the run fails or names no file. -/
  kept : ∀ (d : Directory) input filter,
    (d.run input filter o).1.status = 1 ∨ o.output = none → (d.run input filter o).2 = d
  /-- Any other run puts its document where the path of the file leads, and keeps what else is in
  the directory. -/
  put : ∀ (d : Directory) input filter path,
    (d.run input filter o).1.status ≠ 1 → o.output = some path → ∃ place document,
      d.destination path = .ok place ∧ (d.run input filter o).1.Holds document o.output ∧
      ∀ names, (d.run input filter o).2.find? names =
        if place = some names then some document else d.find? names
  /-- Words that differ in switches which only report leave the same behind. -/
  alike : ∀ words' o', ofWords words' = .ok o' → AskAlike words words' → o.DeliverAlike o'
  /-- Such a switch can be put in where an argument can begin, unless it is given twice. -/
  added : ∀ before after (s : Switch), ∀ word ∈ s.words, words = before ++ after →
    "--" ∉ before → (∃ arguments, readArguments none before = .ok arguments) →
      s.reports = true → (o.isOn s = true → s.repeats = true) →
        ∃ o', ofWords (before ++ word :: after) = .ok o' ∧ o'.isOn s = true ∧ o.DeliverAlike o'
  /-- It can be left out everywhere. -/
  removed : ∀ before after (s : Switch), ∀ word ∈ s.words, words = before ++ word :: after →
    "--" ∉ before → s.reports = true → ∃ o', ofWords (before ++ after) = .ok o' ∧ o.DeliverAlike o'

section Run

variable {around : Surroundings} {o o' : Options} {words words' : List String}

theorem outcome_run_directory (d : Directory) (input : String) (filter : Option String)
    (o : Options) : (d.run input filter o).1 = o.run (d.surroundings input filter) := by
  unfold Directory.run
  cases hwritten : (o.run (d.surroundings input filter)).written <;> simp [hwritten]

theorem directory_run_eq (d : Directory) (input : String) (filter : Option String)
    (o : Options) : (d.run input filter o).2 =
      match (o.run (d.surroundings input filter)).written with
      | none => d
      | some (path,document) => d.write path document := by
  unfold Directory.run
  cases hwritten : (o.run (d.surroundings input filter)).written <;> simp [hwritten]

theorem Options.mute_eq_of_askAlike (h : ofWords words = .ok o) (h' : ofWords words' = .ok o')
    (halike : AskAlike words words') : o.mute = o'.mute := by
  obtain ⟨arguments,arguments',hread,hread',hsame⟩ := halike
  obtain ⟨_,hwords,hfold⟩ := ofWords_eq_ok_iff.mp h
  obtain ⟨_,hwords',hfold'⟩ := ofWords_eq_ok_iff.mp h'
  obtain rfl := Except.ok.inj (hread.symm.trans hwords)
  obtain rfl := Except.ok.inj (hread'.symm.trans hwords')
  have hmute := foldlM_mute hfold
  rw [hsame,foldlM_mute hfold'] at hmute
  exact (Except.ok.inj hmute).symm

end Run

/-- A command line that is understood is all or nothing, and its reports change nothing. -/
theorem ofWords_allOrNothing (words : List String) (o : Options)
    (h : Options.ofWords words = .ok o) : o.AllOrNothing words where
  failed around := by
    rcases run_cases around o with h | ⟨_,_,plan,h⟩
    · exact iff_of_true h.status h.completes
    · exact iff_of_false h.status_ne_one fun hnone => hnone plan h.completes
  nothing around hstatus := by
    rcases run_cases around o with h | ⟨_,_,_,h⟩
    · exact ⟨h.output,h.written⟩
    · exact absurd hstatus h.status_ne_one
  document around hstatus := by
    rcases run_cases around o with h | ⟨sheet,_,_,h⟩
    · exact absurd h.status hstatus
    · have hask := askFor_rendering h.uses h.reads
      obtain ⟨hlayout,hdocument⟩ := documentBy_rendering sheet h.load
      refine ⟨_,_,⟨_,_,hask⟩,fun r text' hr => ?_,h.holds,by simpa using h.status⟩
      rw [(hr.alike hask).1,(hr.alike hask).2]
      exact ⟨hlayout,hdocument⟩
  outcome d input filter := outcome_run_directory d input filter o
  kept d input filter hkept := by
    rw [outcome_run_directory] at hkept
    rw [directory_run_eq]
    rcases run_cases (d.surroundings input filter) o with h | ⟨_,_,_,h⟩
    · rw [h.written]
    · have houtput := hkept.resolve_left h.status_ne_one
      have hholds := h.holds
      rw [houtput] at hholds
      rw [hholds.2]
  put d input filter path hstatus houtput := by
    rw [outcome_run_directory] at hstatus
    rw [outcome_run_directory,directory_run_eq]
    rcases run_cases (d.surroundings input filter) o with h | ⟨_,_,_,h⟩
    · exact absurd h.status hstatus
    · have hallowed : o.output.bind d.refusal = none := h.completes.written
      rw [houtput,Option.bind_some,Directory.refusal] at hallowed
      cases hplace : d.destination path with
      | error obstacle => simp [hplace] at hallowed
      | ok place =>
        refine ⟨place,_,rfl,h.holds,fun names => ?_⟩
        have hholds := h.holds
        rw [houtput] at hholds
        rw [hholds.2]
        cases place with
        | none => simp [Directory.write,hplace]
        | some own =>
          simp only [Directory.write,hplace,Directory.find?_put,Option.some.injEq,eq_comm]
  alike words' o' h' halike := .of_mute_eq (Options.mute_eq_of_askAlike h h' halike)
  added before after s word hword hwords hdash hbefore hreports honce := by
    obtain ⟨first,hfirst⟩ := hbefore
    refine ⟨o.noted s,(Options.ofWords_insert_iff hword hdash).mpr
      ⟨⟨first,readWords_eq_ok hdash hfirst⟩,o,hwords ▸ h,honce,rfl⟩,by simp [Options.isOn_noted],?_⟩
    exact .of_mute_eq (Options.mute_noted hreports).symm
  removed before after s word hword hwords hdash hreports := by
    subst hwords
    obtain ⟨_,plain,hplain,_,rfl⟩ := (Options.ofWords_insert_iff hword hdash).mp h
    exact ⟨plain,hplain,.of_mute_eq (Options.mute_noted hreports)⟩

/-- A strict run with debugging, which writes JSON to a file. -/
theorem ofWords_allOrNothing_strict :
    ∃ o, Options.ofWords ["-dv","hall.toml","--strict","-f","json","--output=hall.json"] = .ok o ∧
      o.strict = true ∧ o.format = some .json ∧ o.output = some "hall.json" ∧
      o.AllOrNothing ["-dv","hall.toml","--strict","-f","json","--output=hall.json"] :=
  ⟨_,rfl,rfl,rfl,rfl,ofWords_allOrNothing _ _ rfl⟩

end Blueprint.CommandLine
