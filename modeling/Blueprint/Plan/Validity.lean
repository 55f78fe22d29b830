import Blueprint.Plan.Basic
import Blueprint.Decimal.Text

/-!
The checks that a plan must pass before it is laid out: ids that can be referenced without doubt,
and numbers that a layout can use. All violations are collected, in the order of the document.
Whether references lead anywhere is not checked here.
-/

namespace Blueprint

/-- What a violation is about. -/
inductive Subject where
  | room (id : String)
  | part (room part : String)
  | roomFurnishing (room : String) (index : Nat)
  | partFurnishing (room part : String) (index : Nat)
  | opening (kind : OpeningKind) (index : Nat)
  deriving DecidableEq, Repr, Inhabited

def Subject.name : Subject → String
  | room id => id
  | part r p => (PartKey.mk r p).text
  | roomFurnishing r i => s!"{r} object #{i + 1}"
  | partFurnishing r p i => s!"{(PartKey.mk r p).text} object #{i + 1}"
  | opening kind i => kind.ordinal i

inductive Measure where
  | width
  | depth
  | height
  deriving DecidableEq, Repr, Inhabited

def Measure.name : Measure → String
  | width => "width"
  | depth => "depth"
  | height => "height"

inductive Problem (α : Type) where
  | emptyId
  | idContains (c : Char)
  | notPositive (measure : Measure) (value : α)
  | shiftNotFinite
  | offsetNotFinite
  | positionNotFinite
  deriving DecidableEq, Repr, Inhabited

structure Violation (α : Type) where
  subject : Subject
  problem : Problem α
  deriving DecidableEq, Repr, Inhabited

/-- The field that a problem is found in. -/
def Problem.field {α : Type} : Problem α → String
  | emptyId => "id"
  | idContains _ => "id"
  | notPositive measure _ => measure.name
  | shiftNotFinite => "offset"
  | offsetNotFinite => "offset"
  | positionNotFinite => "position"

def Problem.reason : Problem Float → String
  | emptyId => "must not be empty"
  | idContains c => s!"must not contain '{c}'"
  | notPositive _ value => s!"must be a positive number, got {Decimal.plain value}"
  | shiftNotFinite => "both components must be finite numbers"
  | offsetNotFinite => "must be a finite number"
  | positionNotFinite => "must be finite numbers"

def Violation.message (v : Violation Float) : String :=
  s!"invalid {v.problem.field} on '{v.subject.name}': {v.problem.reason}"

variable {α : Type} [Scalar α]
open Scalar

/-- The characters with a meaning in references: the dot joins a room and a part, the colon parts a
target from its corner or wall. -/
def isReserved (c : Char) : Bool := c == '.' || c == ':'

def idProblems (id : String) : List (Problem α) :=
  if id.isEmpty then [.emptyId]
  else (id.toList.find? isReserved).toList.map .idContains

def measureProblems (measure : Measure) (value : α) : List (Problem α) :=
  if positive value then [] else [.notPositive measure value]

def Block.problems (b : Block α) : List (Problem α) :=
  idProblems b.id ++ measureProblems .width b.width ++ measureProblems .depth b.depth ++
    if isFinite b.offset.1 && isFinite b.offset.2 then [] else [.shiftNotFinite]

def Furnishing.problems (f : Furnishing α) : List (Problem α) :=
  (if isFinite f.x && isFinite f.y then [] else [.positionNotFinite]) ++
    measureProblems .width f.size.1 ++ measureProblems .height f.size.2

def Window.problems (w : Window α) : List (Problem α) :=
  (if isFinite w.offset then [] else [.offsetNotFinite]) ++ measureProblems .width w.width ++
    match w.depth with
    | none => []
    | some depth => measureProblems .depth depth

def violationsOf (subject : Subject) (problems : List (Problem α)) : List (Violation α) :=
  problems.map fun p => ⟨subject,p⟩

def furnishingViolations (subject : Nat → Subject) (fs : List (Furnishing α)) :
    List (Violation α) :=
  (fs.mapIdx fun i f => violationsOf (subject i) f.problems).flatten

def Part.violations (room : String) (p : Part α) : List (Violation α) :=
  violationsOf (.part room p.id) p.problems ++
    furnishingViolations (.partFurnishing room p.id) p.furnishings

def Room.violations (r : Room α) : List (Violation α) :=
  violationsOf (.room r.id) r.problems ++
    furnishingViolations (.roomFurnishing r.id) r.furnishings ++
    r.parts.flatMap (Part.violations r.id)

def Opening.violations (o : Opening α) : List (Violation α) :=
  violationsOf (.opening o.kind o.index) o.problems

/-- Everything that is wrong with a plan; a plan is valid when the list is empty. -/
def Plan.violations (plan : Plan α) : List (Violation α) :=
  plan.rooms.flatMap Room.violations ++ plan.openings.flatMap Opening.violations

def Plan.isValid (plan : Plan α) : Bool := plan.violations.isEmpty

end Blueprint
