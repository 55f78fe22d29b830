import Blueprint.Layout.Failure
import Blueprint.Plan.Basic

/-!
From attachments to places. A block may name a target that is declared later, so its place is found
in passes: each pass walks the blocks in the order of their declaration and places every block
whose target has a place already. The passes end when everything is placed, when a pass places
nothing, or when the given number is used up. What is then left is sorted by cause: a target that is
declared nowhere, a cycle, a target that hangs on one of these, or too few passes.
-/

namespace Blueprint

variable {α : Type} [Scalar α]

/-- What a target name stands for. -/
inductive Target (α : Type) where
  /-- A rectangle known beforehand. -/
  | fixed (rect : Rect α)
  /-- Another block of the same list. -/
  | block (id : String)
  deriving DecidableEq, Repr, Inhabited

/-- The reserved name that the blocks of one list may attach to. -/
inductive Namespace (α : Type) where
  /-- Rooms attach to the origin. -/
  | rooms
  /-- Parts attach to their room. -/
  | parts (parent : Rect α)
  deriving DecidableEq, Repr, Inhabited

def Namespace.reserved : Namespace α → String
  | rooms => originName
  | parts _ => parentName

def Namespace.anchorRect : Namespace α → Rect α
  | rooms => Rect.zero
  | parts parent => parent

def Namespace.classify (ns : Namespace α) (target : String) : Target α :=
  if target = ns.reserved then .fixed ns.anchorRect else .block target

namespace Pinning

/-- Places found so far, by id. -/
abbrev Places (α : Type) := List (String × Rect α)

def Places.has (places : Places α) (id : String) : Bool := (places.lookup id).isSome

/-- The first declaration of each id. -/
def firstDeclared (blocks : List (Block α)) : List (Block α) :=
  blocks.foldl (fun table b => if table.any (·.id == b.id) then table else table ++ [b]) []

/-- The ids of all later declarations. -/
def laterDeclared (blocks : List (Block α)) : List String :=
  (blocks.foldl
    (fun (seen,later) b =>
      if seen.contains b.id then (seen,later ++ [b.id]) else (b.id :: seen,later))
    (([],[]) : List String × List String)).2

/-- The rectangle of a block whose anchor corner sits on a point, moved by the block's offset. -/
def placeAt (b : Block α) (p : Point α) : Rect α :=
  let (ax,ay) := b.anchor.displacement b.width b.depth
  ⟨p.x - ax + b.offset.1,p.y - ay + b.offset.2,b.width,b.depth⟩

/-- The rectangle of a block's target, if it is known. -/
def targetRect? (ns : Namespace α) (places : Places α) (b : Block α) : Option (Rect α) :=
  match ns.classify b.attachTo.target with
  | .fixed rect => some rect
  | .block id => places.lookup id

/-- Place a block that has no place yet and whose target has one. -/
def visit (ns : Namespace α) (places : Places α) (b : Block α) : Places α :=
  if places.has b.id then places
  else
    match targetRect? ns places b with
    | none => places
    | some rect => places ++ [(b.id,placeAt b (rect.corner b.attachTo.corner))]

def pass (ns : Namespace α) (table : List (Block α)) (places : Places α) : Places α :=
  table.foldl (visit ns) places

/-- Run at most the given number of passes; the places found, and how many passes were run. -/
def runPasses (ns : Namespace α) (table : List (Block α)) :
    (most : Nat) → Places α → Places α × Nat
  | 0, places => (places,0)
  | most + 1, places =>
    if places.length < table.length then
      let next := pass ns table places
      if next.length = places.length then (next,1)
      else
        let (final,count) := runPasses ns table most next
        (final,count + 1)
    else (places,0)

/-- The block with an id. -/
def declared? (table : List (Block α)) (id : String) : Option (Block α) := table.find? (·.id == id)

/-- What the block with an id is attached to. -/
def attached? (ns : Namespace α) (table : List (Block α)) (id : String) : Option (Target α) :=
  (declared? table id).map fun b => ns.classify b.attachTo.target

/-- What the next step of a walk along attachments comes to. -/
inductive Step where
  /-- The target is what the walk is after. -/
  | arrived
  /-- There is no target to go on from, or it was met before. -/
  | lost
  | onward (id : String)
  deriving DecidableEq, Repr

/-- One step of a walk from a block to its target. `met` holds the ids met so far. -/
def step (ns : Namespace α) (table : List (Block α)) (goal : Target α → Bool)
    (met : List String) (current : String) : Step :=
  match attached? ns table current with
  | none => .lost
  | some target =>
    if goal target then .arrived
    else
      match target with
      | .fixed _ => .lost
      | .block next =>
        if (declared? table next).isNone || met.contains next then .lost else .onward next

/-- How many blocks of a table a walk has not met. -/
def unmet (table : List (Block α)) (met : List String) : Nat :=
  (table.filter fun b => !met.contains b.id).length

theorem fresh_of_onward {ns : Namespace α} {table : List (Block α)} {goal : Target α → Bool}
    {met : List String} {current next : String}
    (h : step ns table goal met current = .onward next) :
    (declared? table next).isSome ∧ next ∉ met := by
  unfold step at h
  split at h
  · cases h
  · split at h
    · cases h
    · split at h
      · cases h
      · split at h
        · cases h
        · obtain rfl := Step.onward.inj h
          simp_all [Option.isSome_iff_ne_none]

theorem unmet_lt_of_onward {ns : Namespace α} {table : List (Block α)} {goal : Target α → Bool}
    {met : List String} {current next : String}
    (h : step ns table goal met current = .onward next) :
    unmet table (met ++ [next]) < unmet table met := by
  obtain ⟨hdeclared,hnext⟩ := fresh_of_onward h
  obtain ⟨b,hb,hid⟩ := List.find?_isSome.1 hdeclared
  have hsub : (table.filter fun b => !(met ++ [next]).contains b.id) =
      (table.filter fun b => !met.contains b.id).filter fun b => b.id != next := by
    rw [List.filter_filter]
    refine List.filter_congr fun b _ => ?_
    rw [Bool.eq_iff_iff]
    simp [and_comm]
  rw [unmet,unmet,hsub,List.length_filter_lt_length_iff_exists]
  exact ⟨b,by simp_all⟩

/-- Walk along attachments to a goal, from the last of the ids met so far; all the ids met, unless
the walk gets lost. Every step meets another block of the table, so the walk comes to an end. -/
def follow (ns : Namespace α) (table : List (Block α)) (goal : Target α → Bool)
    (met : List String) (current : String) : Option (List String) :=
  match _ : step ns table goal met current with
  | .arrived => some met
  | .lost => none
  | .onward next => follow ns table goal (met ++ [next]) next
termination_by unmet table met
decreasing_by exact unmet_lt_of_onward ‹_›

/-- Whether the rectangle of a target is known. -/
def Places.knows (places : Places α) : Target α → Bool
  | .fixed _ => true
  | .block id => places.has id

/-- Whether the attachments from `id` lead to something placed, or to the reserved target. -/
def leadsToPlace (ns : Namespace α) (table : List (Block α)) (places : Places α) (id : String) :
    Bool :=
  (follow ns table places.knows [id] id).isSome

/-- Whether a target is the block with an id. -/
def isBlock (id : String) : Target α → Bool
  | .fixed _ => false
  | .block target => target == id

/-- The cycle through `start`, beginning with it. -/
def cycleThrough (ns : Namespace α) (table : List (Block α)) (start : String) :
    Option (List String) :=
  follow ns table (isBlock start) [start] start

/-- Why a block that leads to no place has none. A cycle is told once, by its first member. -/
def diagnose (ns : Namespace α) (table : List (Block α)) (qualify : String → String)
    (told : List String) (b : Block α) : Option Failure × List String :=
  match ns.classify b.attachTo.target with
  | .fixed _ => (none,told)
  | .block target =>
    if (declared? table target).isNone then (some (.missingTarget (qualify b.id) target),told)
    else if told.contains b.id then (none,told)
    else
      match cycleThrough ns table b.id with
      | some members => (some (.cycle (members.map qualify)),told ++ members)
      | none => (some (.unplacedTarget (qualify b.id) target),told)

/-- The causes for a list of blocks, in order; `told` holds the members of cycles told before. -/
def diagnoseAll (ns : Namespace α) (table : List (Block α)) (qualify : String → String) :
    (told : List String) → List (Block α) → List Failure
  | _, [] => []
  | told, b :: rest =>
    let (failure,told') := diagnose ns table qualify told b
    failure.toList ++ diagnoseAll ns table qualify told' rest

end Pinning

open Pinning in
/-- What became of one list of blocks. -/
structure Pinning (α : Type) where
  /-- The places, in the order of declaration. -/
  rects : Places α
  failures : List Failure
  passes : Nat
  deriving DecidableEq, Repr, Inhabited

open Pinning in
/-- Place the blocks of one list. `qualify` turns an id into the name that failures use. -/
def pin (ns : Namespace α) (maxPasses : Nat) (qualify : String → String)
    (blocks : List (Block α)) : Pinning α :=
  let table := firstDeclared blocks
  let (places,passes) := runPasses ns table maxPasses []
  let unplaced := table.filter fun b => !places.has b.id
  let (cutOff,failed) := unplaced.partition fun b => leadsToPlace ns table places b.id
  { rects := table.filterMap fun b => (places.lookup b.id).map (b.id,·)
    failures :=
      (laterDeclared blocks).map (fun id => .duplicate (qualify id)) ++
        diagnoseAll ns table qualify [] failed ++
        if cutOff.isEmpty then [] else [.outOfPasses passes (cutOff.map fun b => qualify b.id)]
    passes }

end Blueprint
