import Blueprint.Geometry.Rotation
import Blueprint.Proofs.Geometry.Direction
import Mathlib.Algebra.Group.End
import Mathlib.Data.Rat.Floor

/-!
Quarter turns, in exact coordinates. A turn by a whole number of quarters, however large or negative,
is known by that number modulo four: no cosine or sine is looked up for it. About one center such
turns compose as their numbers add up, and they keep distances and the way round.
-/

namespace Blueprint

/-! ### Directions turned -/

theorem emod_four_cases (k : Int) : k % 4 = 0 ∨ k % 4 = 1 ∨ k % 4 = 2 ∨ k % 4 = 3 := by omega

namespace Point

/-- A quarter turn of directions. Its powers are the turns by so many quarters, those with a negative
exponent the other way round. -/
def clockwise : Equiv.Perm (Point Rat) where
  toFun := quarterTurn true
  invFun := quarterTurn false
  left_inv u := by simp [quarterTurn]
  right_inv u := by simp [quarterTurn]

theorem clockwise_apply (u : Point Rat) : clockwise u = ⟨-u.y,u.x⟩ := rfl

theorem clockwise_zpow_four : clockwise ^ (4 : Int) = 1 := by
  ext u : 1
  change clockwise (clockwise (clockwise (clockwise u))) = u
  simp [clockwise_apply]

/-- Cosines and sines of quarter turns are those of the powers: on both sides only the number modulo
four counts. -/
theorem zpow_clockwise (k : Int) (u : Point Rat) : (clockwise ^ k) u =
    ⟨u.x * (Rotation.quarterTurn k).1 - u.y * (Rotation.quarterTurn k).2,
      u.x * (Rotation.quarterTurn k).2 + u.y * (Rotation.quarterTurn k).1⟩ := by
  rw [zpow_eq_zpow_emod k clockwise_zpow_four]
  obtain h | h | h | h := emod_four_cases k <;> rw [h]
  · simp [Rotation.quarterTurn,h]
  · simp [Rotation.quarterTurn,h,clockwise_apply]
  · change clockwise (clockwise u) = _
    simp [Rotation.quarterTurn,h,clockwise_apply]
  · change clockwise (clockwise (clockwise u)) = _
    simp [Rotation.quarterTurn,h,clockwise_apply]

/-- Only whole turns leave the direction of x as it is. -/
theorem zpow_clockwise_eq_one_iff {k : Int} : clockwise ^ k = 1 ↔ k % 4 = 0 := by
  constructor
  · intro h
    have hx : (clockwise ^ k) ⟨1,0⟩ = ⟨1,0⟩ := by rw [h,Equiv.Perm.one_apply]
    rw [zpow_clockwise] at hx
    obtain h | h | h | h := emod_four_cases k
    · exact h
    · simp [Rotation.quarterTurn,h] at hx
    · norm_num [Rotation.quarterTurn,h] at hx
    · simp [Rotation.quarterTurn,h] at hx
  · intro h
    rw [zpow_eq_zpow_emod k clockwise_zpow_four,h,zpow_zero]

/-- What one quarter turn preserves, any number of them does. -/
theorem dot_zpow_clockwise (k : Int) (u v : Point Rat) :
    ((clockwise ^ k) u).dot ((clockwise ^ k) v) = u.dot v := by
  have hstep (u v : Point Rat) : (clockwise u).dot (clockwise v) = u.dot v :=
    dot_quarterTurn_quarterTurn true u v
  induction k using Int.induction_on generalizing u v with
  | zero => rw [zpow_zero,Equiv.Perm.one_apply,Equiv.Perm.one_apply]
  | succ n ih => rw [zpow_add_one,Equiv.Perm.mul_apply,Equiv.Perm.mul_apply,ih,hstep]
  | pred n ih =>
    rw [zpow_sub_one,Equiv.Perm.mul_apply,Equiv.Perm.mul_apply,ih,← hstep]
    simp

theorem cross_zpow_clockwise (k : Int) (u v : Point Rat) :
    ((clockwise ^ k) u).cross ((clockwise ^ k) v) = u.cross v := by
  have hdot (u v : Point Rat) : u.cross v = (clockwise u).dot v := turn_eq_dot true u v
  have hcomm : clockwise ((clockwise ^ k) u) = (clockwise ^ k) (clockwise u) := by
    rw [← Equiv.Perm.mul_apply,← Equiv.Perm.mul_apply,mul_self_zpow,mul_zpow_self]
  rw [hdot,hcomm,dot_zpow_clockwise,hdot]

variable (p : Point Rat)

@[simp] theorem toward_translate (u : Point Rat) : p.toward (p.translate u.x u.y) = u := by
  simp [toward,translate]

theorem toward_injective : Function.Injective p.toward := by
  rintro ⟨x,y⟩ ⟨x',y'⟩ h
  simpa [toward] using h

end Point

/-! ### Angles of quarter turns -/

namespace Scalar

/-- Exact scalars, with any table for the cosines and sines that are looked up. -/
@[reducible] def exact (table : Rat → Rat × Rat) : Scalar Rat := { instScalarRat with cosSin := table }

theorem exact_cosSin : exact cosSin = instScalarRat := rfl

theorem withinTurn_rat (a : Rat) : withinTurn a = a - 360 * (⌊a / 360⌋ : Int) := rfl

theorem withinTurn_quarters (k : Int) : withinTurn (90 * k : Rat) = 90 * (k % 4 : Int) := by
  have hturns : (90 * k / 360 : Rat) = k / (4 : Nat) := by
    push_cast
    ring
  rw [withinTurn_rat,hturns,Rat.floor_intCast_div_natCast,Int.emod_def]
  push_cast
  ring

theorem nearestInt_rat (a : Rat) :
    nearestInt a = if a < 0 then -⌊-a + 1 / 2⌋ else ⌊a + 1 / 2⌋ := rfl

theorem nearestInt_intCast (n : Int) : nearestInt (n : Rat) = n := by
  have hfloor (m : Int) : ⌊(m + 1 / 2 : Rat)⌋ = m := by
    rw [Int.floor_eq_iff]
    constructor <;> linarith
  rw [nearestInt_rat]
  split
  · rw [← Int.cast_neg,hfloor,neg_neg]
  · exact hfloor n

end Scalar

/-! ### Points turned -/

namespace Rotation
open Scalar

variable (table : Rat → Rat × Rat) (center : Point Rat)

/-- Whether a turn by an angle goes whole turns only. -/
def isWhole (degrees : Rat) : Bool := @isIdentity Rat (exact table) ⟨degrees,center⟩

/-- Where a turn by an angle about the center takes a point. -/
def turned (degrees : Rat) (p : Point Rat) : Point Rat := @apply Rat (exact table) ⟨degrees,center⟩ p

/-- Where it takes a point that is given relative to the center. -/
def turnedLocal (degrees : Rat) (p : Point Rat) : Point Rat :=
  @applyLocal Rat (exact table) ⟨degrees,center⟩ p

section Quarters

variable (k : Int)

theorem isWhole_quarters : isWhole table center (90 * k) = true ↔ k % 4 = 0 := by
  have hone : (1 : Rat) ≤ Decimal.twoPow 52 := by exact_mod_cast Decimal.twoPow_pos 52
  have hwhole : isWhole table center (90 * k) =
      decide (magnitude (withinTurn (90 * k : Rat)) < quotient 1 (Decimal.twoPow 52)) := rfl
  rw [hwhole,decide_eq_true_iff,withinTurn_quarters,magnitude_rat,quotient_rat,Int.cast_one]
  constructor
  · intro h
    by_contra hne
    have hquarter : (1 : Rat) ≤ (k % 4 : Int) := by
      exact_mod_cast (by omega : 1 ≤ k % 4)
    have hsmall : (1 : Rat) / Decimal.twoPow 52 ≤ 1 := div_le_one_of_le₀ hone (by linarith)
    rw [abs_of_nonneg (by linarith)] at h
    linarith
  · intro h
    rw [h,Int.cast_zero,mul_zero,abs_zero]
    exact div_pos one_pos (by linarith)

/-- Cosine and sine are not looked up in the table. -/
theorem cosSin_quarters : @cosSin Rat (exact table) ⟨90 * k,center⟩ = quarterTurn k := by
  have hcosSin : @cosSin Rat (exact table) ⟨90 * k,center⟩ =
      if magnitude (withinTurn (90 * k : Rat) / whole 90 -
          whole (nearestInt (withinTurn (90 * k : Rat) / whole 90))) < quotient 1 1000000000000
        then quarterTurn (nearestInt (withinTurn (90 * k : Rat) / whole 90))
        else table (withinTurn (90 * k)) := rfl
  have hquarters : withinTurn (90 * k : Rat) / whole 90 = (k % 4 : Int) := by
    rw [withinTurn_quarters,whole_rat]
    push_cast
    field_simp
  rw [hcosSin,hquarters,nearestInt_intCast,whole_rat,sub_self,if_pos]
  · simp only [quarterTurn,Int.emod_emod]
  · rw [magnitude_rat,abs_zero,quotient_rat]
    norm_num

theorem turned_quarters (p : Point Rat) : turned table center (90 * k) p =
    center.translate ((Point.clockwise ^ k) (center.toward p)).x
      ((Point.clockwise ^ k) (center.toward p)).y := by
  have hturned : turned table center (90 * k) p =
      if isWhole table center (90 * k) then p
      else
        let (c,s) := @cosSin Rat (exact table) ⟨90 * k,center⟩
        ⟨center.x + (p.x - center.x) * c - (p.y - center.y) * s,
          center.y + (p.x - center.x) * s + (p.y - center.y) * c⟩ := rfl
  rw [hturned]
  split
  · rename_i hwhole
    rw [Point.zpow_clockwise_eq_one_iff.mpr ((isWhole_quarters table center k).mp hwhole)]
    simp [Point.translate,Point.toward]
  · rw [cosSin_quarters,Point.zpow_clockwise]
    simp only [Point.translate,Point.toward,Point.mk.injEq]
    constructor <;> ring

theorem turnedLocal_quarters (p : Point Rat) : turnedLocal table center (90 * k) p =
    center.translate ((Point.clockwise ^ k) p).x ((Point.clockwise ^ k) p).y := by
  have hlocal : turnedLocal table center (90 * k) p =
      turned table center (90 * k) (center.translate p.x p.y) := rfl
  rw [hlocal,turned_quarters,Point.toward_translate]

theorem center_toward_turned (p : Point Rat) :
    center.toward (turned table center (90 * k) p) = (Point.clockwise ^ k) (center.toward p) := by
  rw [turned_quarters,Point.toward_translate]

/-- The ways between points are turned like those from the center. -/
theorem toward_turned (p q : Point Rat) :
    (turned table center (90 * k) p).toward (turned table center (90 * k) q) =
      (Point.clockwise ^ k) (p.toward q) := by
  rw [turned_quarters,turned_quarters]
  simp only [Point.zpow_clockwise,Point.translate,Point.toward,Point.mk.injEq]
  constructor <;> ring

theorem turned_turned (j : Int) (p : Point Rat) :
    turned table center (90 * j) (turned table center (90 * k) p) =
      turned table center (90 * (j + k)) p := by
  apply center.toward_injective
  rw [← Int.cast_add,center_toward_turned,center_toward_turned,center_toward_turned,zpow_add,
    Equiv.Perm.mul_apply]

theorem turned_of_zpow_eq_one {k : Int} (h : Point.clockwise ^ k = 1) (p : Point Rat) :
    turned table center (90 * k) p = p := by
  apply center.toward_injective
  rw [center_toward_turned,h,Equiv.Perm.one_apply]

/-- A turn that is made again and again is one by as many times its quarters. -/
theorem turned_iterate (n : Nat) (p : Point Rat) :
    (turned table center (90 * k))^[n] p = turned table center (90 * (n * k : Int)) p := by
  induction n with
  | zero =>
    rw [Nat.cast_zero,zero_mul]
    exact (turned_of_zpow_eq_one table center (zpow_zero _) p).symm
  | succ n ih =>
    have hnext : (k + (n * k : Int) : Rat) = ((n + 1 : Nat) * k : Int) := by
      push_cast
      ring
    rw [Function.iterate_succ_apply',ih,turned_turned,hnext]

theorem forall_turned_eq_iff :
    (∀ p, turned table center (90 * k) p = p) ↔ isWhole table center (90 * k) = true := by
  rw [isWhole_quarters,← Point.zpow_clockwise_eq_one_iff]
  refine ⟨fun h => ?_,turned_of_zpow_eq_one table center⟩
  ext u : 1
  have hu := center_toward_turned table center k (center.translate u.x u.y)
  rw [h,Point.toward_translate] at hu
  exact hu.symm

end Quarters

/-- The turns by whole numbers of quarters about a center, as a group. -/
structure QuarterGroup : Prop where
  /-- Seen from the center, a point goes round clockwise by as many quarters as the angle says. -/
  seen : ∀ (k : Int) (p : Point Rat),
    center.toward (turned table center (90 * k) p) = (Point.clockwise ^ k) (center.toward p)
  /-- So does a point that is given relative to the center. -/
  seenLocal : ∀ (k : Int) (p : Point Rat),
    center.toward (turnedLocal table center (90 * k) p) = (Point.clockwise ^ k) p
  compose : ∀ (j k : Int) (p : Point Rat),
    turned table center (90 * j) (turned table center (90 * k) p) =
      turned table center (90 * (j + k)) p
  /-- Four times the same turn is none. -/
  four : ∀ (k : Int) (p : Point Rat), (turned table center (90 * k))^[4] p = p
  undo : ∀ (k : Int) (p : Point Rat),
    turned table center (-90 * k) (turned table center (90 * k) p) = p ∧
      turned table center (90 * k) (turned table center (-90 * k) p) = p
  /-- Squares of distances are kept. -/
  distance : ∀ (k : Int) (p q : Point Rat),
    ((turned table center (90 * k) p).toward (turned table center (90 * k) q)).dot
        ((turned table center (90 * k) p).toward (turned table center (90 * k) q)) =
      (p.toward q).dot (p.toward q)
  /-- Cross products are kept, with their signs. -/
  cross : ∀ (k : Int) (p q r s : Point Rat),
    ((turned table center (90 * k) p).toward (turned table center (90 * k) q)).cross
        ((turned table center (90 * k) r).toward (turned table center (90 * k) s)) =
      (p.toward q).cross (r.toward s)
  whole : ∀ k : Int, isWhole table center (90 * k) = true ↔ ∃ n : Int, (90 * k : Rat) = 360 * n
  /-- What counts as no turn is just what moves no point. -/
  still : ∀ k : Int, (∀ p, turned table center (90 * k) p = p) ↔
    isWhole table center (90 * k) = true

/-- Quarter turns are a cyclic group of four, about every center and whatever the table says. -/
theorem quarterTurns_cyclic : QuarterGroup table center where
  seen := center_toward_turned table center
  seenLocal k p := by rw [turnedLocal_quarters,Point.toward_translate]
  compose j k := turned_turned table center k j
  four k p := by
    rw [turned_iterate]
    exact turned_of_zpow_eq_one table center (Point.zpow_clockwise_eq_one_iff.mpr (by omega)) p
  undo k p := by
    have hneg : (-90 * k : Rat) = 90 * (-k : Int) := by
      push_cast
      ring
    rw [hneg,turned_turned,turned_turned,← Int.cast_add,← Int.cast_add,neg_add_cancel,
      add_neg_cancel]
    exact ⟨turned_of_zpow_eq_one table center (zpow_zero _) p,
      turned_of_zpow_eq_one table center (zpow_zero _) p⟩
  distance k p q := by rw [toward_turned,Point.dot_zpow_clockwise]
  cross k p q r s := by rw [toward_turned,toward_turned,Point.cross_zpow_clockwise]
  whole k := by
    rw [isWhole_quarters]
    constructor
    · intro h
      refine ⟨k / 4,?_⟩
      exact_mod_cast (by omega : 90 * k = 360 * (k / 4))
    · rintro ⟨n,hn⟩
      have : 90 * k = 360 * n := by exact_mod_cast hn
      omega
  still := forall_turned_eq_iff table center

end Rotation

end Blueprint
