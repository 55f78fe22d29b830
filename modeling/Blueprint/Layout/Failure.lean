/-!
What a layout leaves out, and why. A failure never stops the layout: whatever it does not name is
placed as if the rest were absent.
-/

namespace Blueprint

inductive Failure where
  /-- The target is declared nowhere. -/
  | missingTarget (id target : String)
  /-- Each member is attached to the next one, and the last to the first. -/
  | cycle (members : List String)
  /-- The target is declared but hangs on something that cannot be placed. -/
  | unplacedTarget (id target : String)
  /-- The last pass was used up before these could be placed. -/
  | outOfPasses (passes : Nat) (remaining : List String)
  /-- The id was declared before, and this declaration is ignored. -/
  | duplicate (id : String)
  /-- A door or window names no wall of something placed. -/
  | wallReference (element reference reason : String)
  /-- No room is attached to the origin. -/
  | noOrigin (required : Bool)
  deriving DecidableEq, Repr, Inhabited

inductive Severity where
  | error
  | warning
  deriving DecidableEq, Repr, Inhabited

namespace Failure

def cycleText (members : List String) : String :=
  match members with
  | [] => ""
  | first :: _ => " -> ".intercalate members ++ " -> " ++ first

def message : Failure → String
  | missingTarget id target => s!"'{id}' is attached to undefined target '{target}'"
  | cycle members => s!"circular attachment: {cycleText members}"
  | unplacedTarget id target => s!"'{id}' depends on unresolved target '{target}'"
  | outOfPasses passes remaining =>
    let names := ", ".intercalate remaining
    s!"gave up after {passes} passes with {remaining.length} unresolved: {names}"
  | duplicate id => s!"duplicate id '{id}' ignored"
  | wallReference element reference reason =>
    s!"{element} has invalid wall reference '{reference}': {reason}"
  | noOrigin _ => "no room is attached to the origin"

def severity : Failure → Severity
  | missingTarget _ _ => .error
  | cycle _ => .error
  | unplacedTarget _ _ => .error
  | noOrigin required => if required then .error else .warning
  | outOfPasses _ _ => .warning
  | duplicate _ => .warning
  | wallReference _ _ _ => .warning

/-- The names of what the failure left out. -/
def entities : Failure → List String
  | missingTarget id _ => [id]
  | cycle members => members
  | unplacedTarget id _ => [id]
  | outOfPasses _ remaining => remaining
  | duplicate id => [id]
  | wallReference element _ _ => [element]
  | noOrigin _ => []

end Failure

end Blueprint
