import Blueprint.CommandLine.Run
import Blueprint.Proofs.Document.Record
import Mathlib.Data.List.Basic

/-!
The switches that only report. The words of a command line are read one by one, so a switch can be
put in or left out between two arguments. What is asked for besides its reports depends on the other
arguments only.
-/

namespace Blueprint.CommandLine

open Document (exists_of_bind exists_of_map)

/-! ### Words -/

/-- What one word means: arguments, and perhaps a setting that waits for its value. -/
def readWord : Option Setting → String → Except UsageError (List Argument × Option Setting)
  | some s, word =>
    if isOption word.toList then .error (.missingValue s)
    else (settingArgument s word.toList).map fun argument => ([argument],none)
  | none, word =>
    match word.toList with
    | '-' :: '-' :: name => (readLong name).map fun
      | .inl argument => ([argument],none)
      | .inr s => ([],some s)
    | '-' :: c :: letters => readLetters (c :: letters)
    | _ => (fileArgument word).map fun argument => ([argument],none)

/-- What some words mean, and the setting that waits behind them. -/
def readWords : Option Setting → List String →
    Except UsageError (List Argument × Option Setting)
  | waiting, [] => .ok ([],waiting)
  | waiting, word :: rest => do
    let (arguments,next) ← readWord waiting word
    let (others,last) ← readWords next rest
    return (arguments ++ others,last)

theorem readArguments_cons {waiting : Option Setting} {word : String} (h : word ≠ "--")
    (rest : List String) : readArguments waiting (word :: rest) = do
      let (arguments,next) ← readWord waiting word
      return arguments ++ (← readArguments next rest) := by
  have hdash : word.toList ≠ ['-','-'] := fun he =>
    h (by rw [← String.ofList_toList (s := word),he])
  cases waiting with
  | some s =>
    rw [readArguments,readWord]
    split
    · rfl
    · cases settingArgument s word.toList <;> rfl
  | none =>
    rw [readArguments.eq_def,readWord]
    dsimp only
    generalize word.toList = chars at hdash ⊢
    split
    · contradiction
    · rename_i name _
      cases hlong : readLong name with
      | error e => simp [hlong,bind,Except.bind,Except.map]
      | ok result =>
        cases result with
        | inl argument =>
          simp only [hlong]
          rfl
        | inr s =>
          simp only [hlong]
          exact (bind_pure (readArguments (some s) rest)).symm
    · split <;> simp_all
    · cases fileArgument word <;> split <;> simp_all <;> rfl

/-- Words are read as far as those behind them allow. -/
theorem readArguments_append {before : List String} (hdash : "--" ∉ before)
    (waiting : Option Setting) (after : List String) :
    readArguments waiting (before ++ after) = do
      let (arguments,next) ← readWords waiting before
      return arguments ++ (← readArguments next after) := by
  induction before generalizing waiting with
  | nil => exact (bind_pure (readArguments waiting after)).symm
  | cons word before ih =>
    obtain ⟨hword,hbefore⟩ := List.ne_and_not_mem_of_not_mem_cons hdash
    rw [List.cons_append,readArguments_cons (Ne.symm hword),readWords]
    simp only [ih hbefore,bind_assoc,pure_bind,List.append_assoc]

/-- Words are understood if no setting waits behind them. -/
theorem readWords_eq_ok {before : List String} (hdash : "--" ∉ before) {arguments : List Argument}
    (h : readArguments none before = .ok arguments) :
    readWords none before = .ok (arguments,none) := by
  rw [← List.append_nil before,readArguments_append hdash] at h
  obtain ⟨⟨first,next⟩,hread,h⟩ := exists_of_bind h
  cases next with
  | none =>
    have hfirst : first ++ [] = arguments := Except.ok.inj h
    rw [hread,← hfirst,List.append_nil]
  | some s => cases h

namespace Switch

/-- The words that stand for a switch and nothing else. -/
def words (s : Switch) : List String :=
  ("--" ++ s.name) :: s.letter?.toList.map fun c => String.ofList ['-',c]

theorem readWord_of_mem_words {s : Switch} {word : String} (h : word ∈ s.words) :
    word ≠ "--" ∧ isOption word.toList = true ∧ readWord none word = .ok ([.switch s],none) := by
  cases s <;> revert word <;> decide

theorem readArguments_cons_of_mem_words {s : Switch} {word : String} (h : word ∈ s.words)
    (rest : List String) :
    readArguments none (word :: rest) = (readArguments none rest).map (.switch s :: ·) := by
  obtain ⟨hword,_,hread⟩ := readWord_of_mem_words h
  rw [readArguments_cons hword,hread]
  rfl

/-- A switch is put in behind words that are understood. -/
theorem readArguments_insert_iff {s : Switch} {word : String} (h : word ∈ s.words)
    {before : List String} (hdash : "--" ∉ before) {after : List String}
    {arguments : List Argument} : readArguments none (before ++ word :: after) = .ok arguments ↔
      ∃ first rest, readWords none before = .ok (first,none) ∧
        readArguments none after = .ok rest ∧ first ++ .switch s :: rest = arguments := by
  obtain ⟨hword,hoption,_⟩ := readWord_of_mem_words h
  rw [readArguments_append hdash]
  constructor
  · intro hall
    obtain ⟨⟨first,next⟩,hfirst,hall⟩ := exists_of_bind hall
    obtain ⟨others,hothers,hall⟩ := exists_of_bind hall
    cases next with
    | none =>
      rw [readArguments_cons_of_mem_words h] at hothers
      obtain ⟨rest,hrest,rfl⟩ := exists_of_map hothers
      exact ⟨first,rest,hfirst,hrest,Except.ok.inj hall⟩
    | some waiting =>
      rw [readArguments_cons hword,readWord,if_pos hoption] at hothers
      cases hothers
  · rintro ⟨first,rest,hfirst,hrest,rfl⟩
    have hothers : readArguments none (word :: after) = .ok (.switch s :: rest) := by
      rw [readArguments_cons_of_mem_words h,hrest]
      rfl
    rw [hfirst]
    change (readArguments none (word :: after)).bind _ = _
    rw [hothers]
    rfl

end Switch

/-! ### Switches among other arguments -/

/-- Whether a switch decides only what is told of a run, and how it ends. -/
def Switch.reports : Switch → Bool
  | debug => false
  | _ => true

def Argument.reports : Argument → Bool
  | switch s => s.reports
  | _ => false

namespace Options

variable {o o' : Options} {s t : Switch} {a : Argument} {arguments : List Argument}

/-- The options with a switch that is given once more. -/
def noted (o : Options) : Switch → Options
  | .lint => { o with lint := true }
  | .strict => { o with strict := true }
  | .debug => { o with debug := true }
  | .verbose => { o with verbosity := o.verbosity + 1 }

theorem turnOn_eq (o : Options) (s : Switch) : o.turnOn s =
    if o.isOn s && !s.repeats then .error (.repeated s.name) else .ok (o.noted s) := by
  cases s <;> rfl

theorem turnOn_eq_ok_iff :
    o.turnOn s = .ok o' ↔ (o.isOn s = true → s.repeats = true) ∧ o.noted s = o' := by
  rw [turnOn_eq]
  split <;> simp_all

theorem noted_comm (o : Options) (s t : Switch) : (o.noted s).noted t = (o.noted t).noted s := by
  cases s <;> cases t <;> rfl

theorem isOn_noted : (o.noted s).isOn t = (o.isOn t || decide (t = s)) := by
  cases s <;> cases t <;> simp [isOn,noted] <;> rfl

theorem map_bind_pure {ε β γ δ : Type} (x : Except ε β) (f : β → γ) (g : γ → δ) :
    (x >>= fun b => pure (f b)).map g = x >>= fun b => pure (g (f b)) := by
  cases x <;> rfl

/-- A setting does not look at the switches. -/
theorem set_noted (o : Options) (s : Switch) (t : Setting) (value : String) :
    (o.noted s).set t value = (o.set t value).map (·.noted s) := by
  cases t <;> simp only [set,map_bind_pure] <;> cases s <;> rfl

/-- A switch does not change what other arguments do. -/
theorem add_noted (h : a = .switch s → s.repeats = true) :
    (o.noted s).add a = (o.add a).map (·.noted s) := by
  cases a with
  | switch t =>
    have hrefused : ((o.noted s).isOn t && !t.repeats) = (o.isOn t && !t.repeats) := by
      rw [isOn_noted]
      by_cases ht : t = s
      · simp [ht,h (congrArg _ ht)]
      · simp [ht]
    rw [add,add,turnOn_eq,turnOn_eq,hrefused,noted_comm]
    split <;> rfl
  | setting t value => exact set_noted o s t value
  | file path => cases s <;> cases hfile : o.file <;> simp [add,noted,hfile,Except.map]

theorem foldlM_noted (h : .switch s ∈ arguments → s.repeats = true) :
    arguments.foldlM add (o.noted s) = (arguments.foldlM add o).map (·.noted s) := by
  induction arguments generalizing o with
  | nil => rfl
  | cons a arguments ih =>
    have ha : a = .switch s → s.repeats = true := fun ha => h (ha ▸ List.mem_cons_self)
    rw [List.foldlM_cons,List.foldlM_cons,add_noted ha]
    cases o.add a with
    | error e => rfl
    | ok next => exact ih fun hmem => h (List.mem_cons_of_mem _ hmem)

/-- A switch is on if it was given. -/
theorem isOn_of_add (h : o.add a = .ok o') : o'.isOn s = (o.isOn s || decide (a = .switch s)) := by
  cases a with
  | switch t =>
    obtain ⟨_,rfl⟩ := turnOn_eq_ok_iff.mp h
    rw [isOn_noted]
    simp [eq_comm]
  | setting t value =>
    cases t <;> obtain ⟨_,_,h⟩ := exists_of_bind h <;> cases h <;> cases s <;> simp [isOn]
  | file path =>
    cases hfile : o.file with
    | some _ => simp [add,hfile] at h
    | none =>
      obtain rfl : { o with file := some path } = o' := by simpa [add,hfile] using h
      cases s <;> simp [isOn]

theorem isOn_of_foldlM (h : arguments.foldlM add o = .ok o') :
    o'.isOn s = (o.isOn s || decide (.switch s ∈ arguments)) := by
  induction arguments generalizing o with
  | nil =>
    cases h
    simp
  | cons a arguments ih =>
    obtain ⟨next,hnext,h⟩ := exists_of_bind h
    rw [ih h,isOn_of_add hnext,Bool.or_assoc,← Bool.decide_or]
    simp [eq_comm]

/-- A switch that is on is given again only if it may be. -/
theorem repeats_of_foldlM (h : arguments.foldlM add o = .ok o') (hon : o.isOn s = true)
    (hmem : .switch s ∈ arguments) : s.repeats = true := by
  induction arguments generalizing o with
  | nil => cases hmem
  | cons a arguments ih =>
    obtain ⟨next,hnext,h⟩ := exists_of_bind h
    rcases List.mem_cons.mp hmem with rfl | hmem
    · exact (turnOn_eq_ok_iff.mp hnext).1 hon
    · exact ih h (by simp [isOn_of_add hnext,hon]) hmem

/-- A switch that is put in among other arguments is noted, unless it is given twice. -/
theorem foldlM_insert_iff {before after : List Argument} :
    (before ++ .switch s :: after).foldlM add o = .ok o' ↔
      ∃ plain, (before ++ after).foldlM add o = .ok plain ∧
        (plain.isOn s = true → s.repeats = true) ∧ plain.noted s = o' := by
  rw [List.foldlM_append,List.foldlM_append]
  cases before.foldlM add o with
  | error e => exact iff_of_false (fun h => nomatch h) fun ⟨_,h,_⟩ => nomatch h
  | ok middle =>
    change (.switch s :: after).foldlM add middle = .ok o' ↔
      ∃ plain, after.foldlM add middle = .ok plain ∧ _
    rw [List.foldlM_cons]
    constructor
    · intro h
      obtain ⟨next,hnext,h⟩ := exists_of_bind h
      obtain ⟨hmiddle,rfl⟩ := turnOn_eq_ok_iff.mp hnext
      have hafter : .switch s ∈ after → s.repeats = true :=
        repeats_of_foldlM h (by simp [isOn_noted])
      rw [foldlM_noted hafter] at h
      obtain ⟨plain,hplain,h⟩ := exists_of_map h
      refine ⟨plain,hplain,fun hon => ?_,h⟩
      rw [isOn_of_foldlM hplain,Bool.or_eq_true,decide_eq_true_iff] at hon
      exact hon.elim hmiddle hafter
    · rintro ⟨plain,hplain,honce,rfl⟩
      rw [isOn_of_foldlM hplain,Bool.or_eq_true,decide_eq_true_iff] at honce
      have hturn : middle.add (.switch s) = .ok (middle.noted s) :=
        turnOn_eq_ok_iff.mpr ⟨fun hon => honce (Or.inl hon),rfl⟩
      have hafter := foldlM_noted (o := middle) fun hmem => honce (Or.inr hmem)
      rw [hplain] at hafter
      rw [hturn]
      exact hafter

theorem ofWords_eq_ok_iff {words : List String} : ofWords words = .ok o ↔
    ∃ arguments, readArguments none words = .ok arguments ∧ arguments.foldlM add {} = .ok o := by
  refine ⟨exists_of_bind,?_⟩
  rintro ⟨arguments,hread,hfold⟩
  rw [ofWords,hread]
  exact hfold

/-- A switch that is put in between two arguments is noted, unless it is given twice. -/
theorem ofWords_insert_iff {word : String} (h : word ∈ s.words) {before : List String}
    (hdash : "--" ∉ before) {after : List String} : ofWords (before ++ word :: after) = .ok o' ↔
      (∃ first, readWords none before = .ok (first,none)) ∧
        ∃ plain, ofWords (before ++ after) = .ok plain ∧
          (plain.isOn s = true → s.repeats = true) ∧ plain.noted s = o' := by
  simp only [ofWords_eq_ok_iff,Switch.readArguments_insert_iff h hdash]
  have hplain {first : List Argument} (hfirst : readWords none before = .ok (first,none)) :
      readArguments none (before ++ after) = (readArguments none after).map (first ++ ·) := by
    rw [readArguments_append hdash,hfirst]
    rfl
  constructor
  · rintro ⟨_,⟨first,rest,hfirst,hrest,rfl⟩,hfold⟩
    obtain ⟨plain,hfold,honce,hnoted⟩ := foldlM_insert_iff.mp hfold
    exact ⟨⟨first,hfirst⟩,plain,⟨_,(hplain hfirst).trans (by rw [hrest]; rfl),hfold⟩,honce,hnoted⟩
  · rintro ⟨⟨first,hfirst⟩,plain,⟨_,hread,hfold⟩,honce,hnoted⟩
    obtain ⟨rest,hrest,rfl⟩ := exists_of_map ((hplain hfirst).symm.trans hread)
    exact ⟨_,⟨first,rest,hfirst,hrest,rfl⟩,foldlM_insert_iff.mpr ⟨plain,hfold,honce,hnoted⟩⟩

/-! ### Besides reports -/

/-- The options without what only reports. -/
def mute (o : Options) : Options := { o with lint := false, strict := false, verbosity := 0 }

theorem mute_noted (h : s.reports = true) : (o.noted s).mute = o.mute := by
  cases s with
  | debug => cases h
  | _ => rfl

theorem set_mute (o : Options) (t : Setting) (value : String) :
    o.mute.set t value = (o.set t value).map mute := by
  cases t <;> simp only [set,map_bind_pure] <;> rfl

theorem add_mute (h : a.reports = false) : o.mute.add a = (o.add a).map mute := by
  cases a with
  | switch s =>
    cases s with
    | debug => cases hdebug : o.debug <;> simp [add,turnOn,isOn,mute,hdebug,Switch.repeats,Except.map]
    | _ => cases h
  | setting t value => exact set_mute o t value
  | file path => cases hfile : o.file <;> simp [add,mute,hfile,Except.map]

/-- What only reports can be passed over. -/
theorem foldlM_mute (h : arguments.foldlM add o = .ok o') :
    (arguments.filter (!·.reports)).foldlM add o.mute = .ok o'.mute := by
  induction arguments generalizing o with
  | nil =>
    cases h
    rfl
  | cons a arguments ih =>
    obtain ⟨next,hnext,h⟩ := exists_of_bind h
    cases hreports : a.reports with
    | true =>
      cases a with
      | switch s =>
        obtain ⟨_,rfl⟩ := turnOn_eq_ok_iff.mp hnext
        rw [List.filter_cons_of_neg (by simp [hreports]),← mute_noted hreports]
        exact ih h
      | _ => cases hreports
    | false =>
      rw [List.filter_cons_of_pos (by simp [hreports]),List.foldlM_cons,add_mute hreports,hnext]
      exact ih h

end Options

end Blueprint.CommandLine
