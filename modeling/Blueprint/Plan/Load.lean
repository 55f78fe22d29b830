import Blueprint.Document.Position
import Blueprint.Json.Reader
import Blueprint.Plan.Read
import Blueprint.Plan.Validity
import Blueprint.Toml.Reader

/-!
Plans loaded from texts. A text that is no plan of its format has one error; a plan that is not
valid has one for each violation.
-/

namespace Blueprint

open Document (Span Position byteLength)

inductive PlanFormat where
  | toml
  | json
  deriving DecidableEq, Repr

/-- The format of a file by the extension of its name, in any case; anything but JSON is TOML. -/
def PlanFormat.ofExtension (extension : Option String) : PlanFormat :=
  match extension with
  | some e => if e.map Char.toLower == "json" then .json else .toml
  | none => .toml

inductive LoadError where
  | toml (message : String) (span : Option Span)
  | json (message : String) (position : Position)
  | invalid (violation : Violation Float)

namespace LoadError

def message : LoadError → String
  | toml message _ => s!"TOML error: {message}"
  | json message p => s!"JSON error at line {p.line}, column {p.column}: {message}"
  | invalid v => v.message

/-- The error in few words, for a reader who sees the place. -/
def label : LoadError → String
  | toml message _ => message
  | json message _ => message
  | invalid v => s!"{v.problem.field} {v.problem.reason}"

/-- The id with which the name of a subject begins. -/
def leadingId (name : String) : List Char :=
  name.toList.takeWhile fun c => c != '.' && c != ' '

/-- Where an error is in the text. A violation is shown at the first place where the id of its
subject stands in quotes. -/
def span? (source : List Char) : LoadError → Option Span
  | toml _ span => span
  | json _ p => do
    let start ← p.offset? source
    return ⟨start,min (start + 1) (byteLength source)⟩
  | invalid v => do
    let id := leadingId v.subject.name
    if id.isEmpty then none
    else
      let quoted := '"' :: id ++ ['"']
      let start ← Document.find? quoted source
      return ⟨start,start + byteLength quoted⟩

end LoadError

/-- Read a plan, without looking at what it says. -/
def Plan.decode (format : PlanFormat) (source : List Char) : Except LoadError (Plan Float) :=
  match format with
  | .toml =>
    match Toml.decode Plan.read source with
    | .ok plan => .ok plan
    | .error f => .error (.toml f.message f.place)
  | .json =>
    match Json.decode Plan.read source with
    | .ok plan => .ok plan
    | .error f =>
      let position :=
        match f.place with
        | some place => Document.positionOf source place.start
        | none => ⟨0,0⟩
      .error (.json f.message position)

/-- Read a plan that is valid, or tell everything that is wrong with it. -/
def Plan.load (format : PlanFormat) (source : List Char) : Except (List LoadError) (Plan Float) :=
  match Plan.decode format source with
  | .error e => .error [e]
  | .ok plan =>
    if plan.isValid then .ok plan else .error (plan.violations.map .invalid)

end Blueprint
