import Blueprint.CommandLine.Log
import Blueprint.CommandLine.Options
import Blueprint.Layout.Lint
import Blueprint.Layout.Written
import Blueprint.Report
import Blueprint.Stylesheet.Read
import Blueprint.Svg.Drawing

/-!
A run of the program, from the words of the command line to everything it leaves behind. Nothing is
written before the whole document is there, so a run that fails leaves no part of it.
-/

namespace Blueprint.CommandLine

/-- What a run finds outside: what reading a file gives, what is typed in, why a file cannot be
written, and the filter of messages. A failure is given in words. -/
structure Surroundings where
  read : String → Except String String
  input : Except String String
  refusal : String → Option String
  filter : Option String

/-- What a run leaves behind. -/
structure Outcome where
  status : Nat
  output : String
  messages : String
  /-- The file that was written, with its content. -/
  written : Option (String × String)
  deriving DecidableEq, Repr

def Outcome.failed (messages : String) : Outcome := ⟨1,"",messages,none⟩

/-- A document that is ready to be written. -/
structure Job where
  document : String
  /-- The file it goes to; none for the output of the run. -/
  target : Option String
  messages : String
  status : Nat

/-- What is left behind when the document was written, or could not be. -/
def Job.conclude (job : Job) (refusal : Option String) : Outcome :=
  match job.target with
  | none => ⟨job.status,job.document ++ "\n",job.messages,none⟩
  | some path =>
    match refusal with
    | none => ⟨job.status,"",job.messages,some (path,job.document)⟩
    | some reason => .failed (job.messages ++ s!"Error writing file '{path}': {reason}\n")

def Severity.word : Severity → String
  | .error => "Error"
  | .warning => "Warning"

def failureWarning (f : Failure) : Warning := ⟨f.message,[("severity",Severity.word f.severity)]⟩

def lintWarning (l : Lint Float) : Warning := ⟨l.text,[]⟩

/-- The stylesheet of a run: the standard one under the one asked for. -/
def sheetOf (read : String → Except String String) (path : Option String) :
    Except String Stylesheet :=
  match path with
  | none => .ok .standard
  | some path =>
    let failed (reason : String) : Except String Stylesheet :=
      .error s!"Error loading stylesheet '{path}': {reason}\n"
    match read path with
    | .error reason => failed s!"Failed to read stylesheet file: {reason}"
    | .ok text =>
      match Stylesheet.ofText text.toList with
      | .error e => failed (e.message text.toList)
      | .ok sheet => .ok (Stylesheet.standard.overlay sheet)

/-- The text of the plan, and the name it has in reports. -/
def sourceOf (around : Surroundings) (path : Option String) : Except String (String × String) :=
  match path with
  | none =>
    match around.input with
    | .ok text => .ok (text,"<stdin>")
    | .error reason => .error s!"Error reading from stdin: {reason}\n"
  | some path =>
    match around.read path with
    | .ok text => .ok (text,path)
    | .error reason => .error s!"Error reading file '{path}': {reason}\n"

/-- The document of a layout. -/
def documentOf (o : Options) (sheet : Stylesheet) (layout : Layout Float) : String :=
  match o.format.getD .svg with
  | .svg => layout.svg o.svgConfig sheet
  | .json => layout.toJson.pretty

/-- The warnings of a run: what the layout left out, and what it puts up with if asked for. -/
def warningsOf (o : Options) (layout : Layout Float) : List Warning :=
  layout.failures.map failureWarning ++ if o.lint then layout.lint.map lintWarning else []

/-- Everything up to the writing of the document. -/
def prepare (around : Surroundings) (o : Options) : Except String Job := do
  let sheet ← sheetOf around.read o.stylesheet
  let (text,name) ← sourceOf around o.file
  let source := text.toList
  match Plan.load o.planFormat source with
  | .error errors => .error (String.join (errors.map (LoadError.report source name)))
  | .ok plan =>
    let layout := plan.layout o.layoutConfig
    let talkative := o.debug || 0 < o.verbosity
    let shown := (warningsOf o layout).filter (·.isShown around.filter talkative)
    return {
      document := documentOf o sheet layout
      target := o.output
      messages := String.join (shown.map Warning.line)
      status := if o.strict && layout.hasErrors then 2 else 0 }

/-- Run with options that are understood. -/
def Options.run (around : Surroundings) (o : Options) : Outcome :=
  match prepare around o with
  | .error messages => .failed messages
  | .ok job => job.conclude (job.target.bind around.refusal)

end Blueprint.CommandLine
