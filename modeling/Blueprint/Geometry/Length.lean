import Blueprint.Decimal.Binary64
import Blueprint.Geometry.Rect

/-!
The length of a segment, rounded once: the square root of a sum of squares is taken of the exact
sum, so nothing overflows on the way. Main statement: the whole part of a square root is found.
-/

namespace Blueprint

/-- Improve a root bit by bit, from the highest one. -/
def improveRoot (n : Nat) : (bits root : Nat) → Nat
  | 0, root => root
  | bits + 1, root =>
    let next := root + Decimal.twoPow bits
    improveRoot n bits (if next * next ≤ n then next else root)

/-- The whole part of a square root. -/
def wholeRoot (n : Nat) : Nat := improveRoot n (n.log2 / 2 + 1) 0

theorem improveRoot_mul_self_le (n bits root : Nat) (h : root * root ≤ n) :
    improveRoot n bits root * improveRoot n bits root ≤ n := by
  induction bits generalizing root with
  | zero => exact h
  | succ bits ih =>
    simp only [improveRoot]
    split
    · next hle => exact ih _ hle
    · exact ih _ h

theorem lt_improveRoot_succ_mul_self (n bits root : Nat)
    (h : n < (root + Decimal.twoPow bits) * (root + Decimal.twoPow bits)) :
    n < (improveRoot n bits root + 1) * (improveRoot n bits root + 1) := by
  induction bits generalizing root with
  | zero => exact h
  | succ bits ih =>
    simp only [improveRoot]
    split
    · apply ih
      rwa [Nat.add_assoc,← Nat.mul_two,← Decimal.twoPow_succ]
    · next hlt => exact ih _ (Nat.lt_of_not_le hlt)

theorem wholeRoot_mul_self_le (n : Nat) : wholeRoot n * wholeRoot n ≤ n :=
  improveRoot_mul_self_le n _ 0 (Nat.zero_le _)

theorem lt_wholeRoot_succ_mul_self (n : Nat) : n < (wholeRoot n + 1) * (wholeRoot n + 1) := by
  apply lt_improveRoot_succ_mul_self
  rw [Nat.zero_add]
  have h : n.log2 + 1 ≤ n.log2 / 2 + 1 + (n.log2 / 2 + 1) := by omega
  exact Nat.lt_of_lt_of_le Nat.lt_log2_self
    (Nat.le_trans (Nat.pow_le_pow_right (by decide) h) (Nat.le_of_eq (Nat.pow_add 2 _ _)))

/-- How many bits of a root are kept, about. -/
def rootBits : Nat := 64

/-- The float nearest to the square root of `n * 4 ^ exponent`. A last bit keeps whether the root
goes on behind the bits that are kept, so that the final rounding sees on which side of a half-way
value it is. -/
def rootFloat (n : Nat) (exponent : Int) : Float :=
  let more := rootBits - n.log2 / 2
  let shifted := n * Decimal.twoPow (2 * more)
  let root := wholeRoot shifted
  let less := root.log2 - rootBits
  let kept := root / Decimal.twoPow less
  let whole := kept * Decimal.twoPow less
  let last := if whole * whole = shifted then 0 else 1
  (Float.ofNat (2 * kept + last)).scaleB (exponent - more + less - 1)

/-- The length of the diagonal of two sides. -/
def diagonal (a b : Float) : Float :=
  match Decimal.Reading.ofFloat a, Decimal.Reading.ofFloat b with
  | .finite x, .finite y =>
    let e := min x.exponent y.exponent
    let m := x.significand * Decimal.twoPow (x.exponent - e).toNat
    let n := y.significand * Decimal.twoPow (y.exponent - e).toNat
    rootFloat (m * m + n * n) e
  | .infinite _, _ => Float.abs a
  | _, .infinite _ => Float.abs b
  | _, _ => a + b

def Segment.length (s : Segment Float) : Float :=
  diagonal (s.stop.x - s.start.x) (s.stop.y - s.start.y)

end Blueprint
