import Blueprint.Geometry.Rect

/-!
The settings of a layout.
-/

namespace Blueprint

/-- What is done when no room is attached to the origin. -/
inductive OriginPolicy where
  | ignore
  | warn
  | require
  deriving DecidableEq, Repr, Inhabited

namespace OriginPolicy

def all : List OriginPolicy := [ignore,warn,require]

def name : OriginPolicy → String
  | ignore => "ignore"
  | warn => "warn"
  | require => "require"

end OriginPolicy

structure LayoutConfig (α : Type) where
  /-- The most passes that one list of blocks is given. -/
  maxPasses : Nat
  /-- The padding of the viewport as a part of its larger extent. -/
  padding : α
  /-- The viewport of a plan of which nothing is placed. -/
  emptyViewport : Rect α
  /-- How far an opening reaches across its wall when it does not say. -/
  openingDepth : α
  originPolicy : OriginPolicy
  deriving DecidableEq, Repr, Inhabited

def LayoutConfig.standard {α : Type} [Scalar α] : LayoutConfig α where
  maxPasses := 20
  padding := Scalar.quotient 1 10
  emptyViewport := ⟨Scalar.zero,Scalar.zero,Scalar.whole 10000,Scalar.whole 10000⟩
  openingDepth := Scalar.whole 100
  originPolicy := .warn

end Blueprint
