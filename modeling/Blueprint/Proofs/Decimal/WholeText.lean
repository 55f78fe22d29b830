import Blueprint.Decimal.Text
import Blueprint.Proofs.Decimal.Whole
import Mathlib.Algebra.Order.Field.Rat
import Mathlib.Algebra.Order.Group.Unbundled.Abs

/-!
The texts of whole numbers. The interval of reals that round to the float of a whole number reaches
no other whole number, so its shortest decimal is the number itself, whatever zeros are dropped and
put back. Documents write it with all its digits and one decimal.
-/

namespace Blueprint.Decimal

/-! ### Digits -/

theorem digitChars_mul_tenPow {n : Nat} (hn : 0 < n) (e : Nat) :
    digitChars (n * tenPow e) = digitChars n ++ zeros e := by
  induction e with
  | zero => simp [zeros,tenPow]
  | succ e ih =>
    have hpos : 0 < n * tenPow e := Nat.mul_pos hn (tenPow_pos e)
    have hmul : n * tenPow (e + 1) = 10 * (n * tenPow e) + 0 := by rw [tenPow_succ]; ring
    have hone := Nat.toDigits_append_toDigits (b := 10) (by decide) hpos (by decide : 0 < 10)
    have hzeros : zeros (e + 1) = zeros e ++ ['0'] := List.replicate_succ'
    rw [hmul,hzeros,← List.append_assoc,← ih]
    exact hone.symm

/-- A decimal that is a whole number. -/
structure Scaled.IsWhole (s : Scaled) (n : Nat) : Prop where
  exponent : 0 ≤ s.exponent
  value : s.digits * tenPow s.exponent.toNat = n

theorem Scaled.IsWhole.trim {s : Scaled} {n : Nat} (h : s.IsWhole n) : s.trim.IsWhole n := by
  fun_induction Scaled.trim s with
  | case1 s hzero ih =>
    obtain ⟨he,hvalue⟩ := h
    refine ih ⟨by simp only; omega,?_⟩
    have hexponent : (s.exponent + 1).toNat = s.exponent.toNat + 1 := by omega
    have hdigits : s.digits = s.digits / 10 * 10 := by omega
    simp only [hexponent,tenPow_succ]
    rw [← hvalue]
    conv_rhs => rw [hdigits]
    ring
  | case2 s hzero => exact h

theorem Scaled.IsWhole.digits_pos {s : Scaled} {n : Nat} (h : s.IsWhole n) (hn : 0 < n) :
    0 < s.digits := by
  rw [← h.value] at hn
  exact Nat.pos_of_mul_pos_right hn

theorem Scaled.IsWhole.positional {s : Scaled} {n : Nat} (h : s.IsWhole n) (hn : 0 < n) :
    s.positional = digitChars n := by
  rw [Scaled.positional,if_pos h.exponent,← digitChars_mul_tenPow (h.digits_pos hn),h.value]

theorem Scaled.IsWhole.leading {s : Scaled} {n : Nat} (h : s.IsWhole n) (hn : 0 < n) :
    s.leading = (digitChars n).length - 1 := by
  have hexponent := h.exponent
  have hlength := congrArg List.length (digitChars_mul_tenPow (h.digits_pos hn) s.exponent.toNat)
  rw [h.value,List.length_append,zeros,List.length_replicate] at hlength
  unfold Scaled.leading
  omega

/-! ### The shortest decimal -/

/-- An interval around a whole number that reaches no other whole number. -/
structure Interval.Around (i : Interval) (n : Nat) : Prop where
  value : i.value = n * i.den
  low : i.low < i.value
  high : i.value < i.high
  lowNear : i.value < i.low + i.den
  highNear : i.high < i.value + i.den

section Around

variable {i : Interval} {n : Nat}

theorem Interval.bounds_of_above_below {d : Nat} (h : (i.above d && i.below d) = true) :
    i.low ≤ d * i.den ∧ d * i.den ≤ i.high := by
  rw [Bool.and_eq_true] at h
  obtain ⟨habove,hbelow⟩ := h
  unfold above at habove
  unfold below at hbelow
  split at habove <;> split at hbelow <;> rw [decide_eq_true_iff] at habove hbelow <;> omega

theorem roundDiv_eq_or (num den : Nat) (tie : Tie) :
    roundDiv num den tie = num / den ∨ roundDiv num den tie = num / den + 1 := by
  unfold roundDiv
  dsimp only
  split_ifs <;> simp

/-- What is hit lies in the interval. -/
theorem Interval.bounds_of_hit? {tie : Tie} {d : Nat} (h : i.hit? tie = some d) :
    i.low ≤ d * i.den ∧ d * i.den ≤ i.high := by
  refine bounds_of_above_below ?_
  unfold hit? at h
  dsimp only at h
  split at h
  · rename_i hfloor hnext
    obtain rfl := Option.some.inj h
    rcases roundDiv_eq_or i.value i.den tie with he | he <;> rw [he] <;> assumption
  · obtain rfl := Option.some.inj h
    assumption
  · obtain rfl := Option.some.inj h
    assumption
  · cases h

theorem Interval.inUnits_natCast (i : Interval) (unit : Nat) :
    i.inUnits unit = { i with den := i.den * tenPow unit } := if_pos (Int.natCast_nonneg unit)

variable (h : i.Around n)
include h

/-- Whatever power of ten is the unit, only the whole number itself is hit. -/
theorem Interval.Around.eq_of_hit? {tie : Tie} {unit d : Nat}
    (hd : (i.inUnits unit).hit? tie = some d) :
    d * tenPow unit = n := by
  obtain ⟨hvalue,_,_,hlow,hhigh⟩ := h
  have hbounds := bounds_of_hit? hd
  rw [inUnits_natCast] at hbounds
  have hcomm : d * (i.den * tenPow unit) = d * tenPow unit * i.den := by ring
  simp only [hcomm] at hbounds
  have hless : n * i.den < (d * tenPow unit + 1) * i.den := by rw [Nat.add_one_mul]; omega
  have hmore : d * tenPow unit * i.den < (n + 1) * i.den := by rw [Nat.add_one_mul]; omega
  have := Nat.lt_of_mul_lt_mul_right hless
  have := Nat.lt_of_mul_lt_mul_right hmore
  omega

theorem Interval.Around.den_pos : 0 < i.den := by
  have := h.low
  have := h.lowNear
  omega

theorem Interval.Around.value_div_den : i.value / i.den = n := by
  rw [h.value,Nat.mul_div_cancel _ h.den_pos]

theorem Interval.Around.isSome_hit? (tie : Tie) : ((i.inUnits 0).hit? tie).isSome = true := by
  have hunits : i.inUnits 0 = i := by
    change { i with den := i.den * 1 } = i
    rw [Nat.mul_one]
  have habove : i.above n = true := by
    unfold above
    have := h.low
    have := h.value
    split <;> rw [decide_eq_true_iff] <;> omega
  have hbelow : i.below n = true := by
    unfold below
    have := h.high
    have := h.value
    split <;> rw [decide_eq_true_iff] <;> omega
  rw [hunits]
  unfold Interval.hit?
  simp only [h.value_div_den,habove,hbelow,Bool.and_self]
  split <;> simp_all

theorem Interval.Around.magnitude (hn : 0 < n) : i.magnitude = digitCount n := by
  have hle : i.den ≤ i.value := by
    rw [h.value]
    exact Nat.le_mul_of_pos_left _ hn
  rw [Interval.magnitude,if_pos hle,h.value_div_den]

end Around

/-- The float of a whole number with its sign. -/
def wholeDyadic (negative : Bool) (n : Nat) : Dyadic :=
  ⟨negative,n * 2 ^ wholeShift n,-(wholeShift n : Int)⟩

section Reading

variable {n : Nat} (hn : 0 < n) (h : n < 2 ^ 53)
include hn h

theorem ofFloat_ofNat : Reading.ofFloat (Float.ofNat n) = .finite (wholeDyadic false n) := by
  rw [Reading.ofFloat_eq,toModel_ofNat hn h,unpack_pack_whole hn h]
  rfl

theorem ofFloat_neg_ofNat : Reading.ofFloat (-Float.ofNat n) = .finite (wholeDyadic true n) := by
  have hmodel : (-Float.ofNat n).toModel = Float.Model.pack (wholeUnpacked .negative hn) := by
    change Float.Model.pack (Float.ofNat n).toModel.unpack.neg = _
    rw [toModel_ofNat hn h,unpack_pack_whole hn h]
    rfl
  rw [Reading.ofFloat_eq,hmodel,unpack_pack_whole hn h]
  rfl

end Reading

theorem around_interval {n : Nat} (hn : 0 < n) (negative : Bool) :
    (wholeDyadic negative n).interval.Around n := by
  have hnumerators : ¬ 0 ≤ -(wholeShift n : Int) - 2 := by omega
  have hden : twoPow (-(-(wholeShift n : Int) - 2)).toNat = 4 * 2 ^ wholeShift n := by
    have hpower : (-(-(wholeShift n : Int) - 2)).toNat = wholeShift n + 2 := by omega
    rw [hpower]
    change 2 ^ (wholeShift n + 2) = _
    ring
  have hpower : 0 < 2 ^ wholeShift n := Nat.two_pow_pos _
  have hpos : 0 < n * 2 ^ wholeShift n := Nat.mul_pos hn hpower
  have hvalue : 4 * (n * 2 ^ wholeShift n) = n * (4 * 2 ^ wholeShift n) := by ring
  unfold Dyadic.interval wholeDyadic
  simp only [if_neg hnumerators,hden,Nat.mul_one]
  generalize hbelow : (if n * 2 ^ wholeShift n == twoPow 52 &&
    decide (-1074 < -(wholeShift n : Int)) then 1 else 2) = below
  have : below = 1 ∨ below = 2 := by
    rw [← hbelow]
    split <;> simp
  constructor <;> dsimp only <;> omega

theorem one_le_digitCount {n : Nat} (hn : 0 < n) : 1 ≤ digitCount n := by
  rw [digitCount,if_neg hn.ne']
  omega

theorem digitCount_le {n k : Nat} (h : n < tenPow k) : digitCount n ≤ k := by
  rcases Nat.eq_zero_or_pos n with rfl | hn
  · rw [digitCount,if_pos rfl]
    exact Nat.zero_le _
  · have hlow : tenPow (digitCount n - 1) < tenPow k := lt_of_le_of_lt (tenPow_digitCount_le n hn) h
    have := (Nat.pow_lt_pow_iff_right (by decide : 1 < 10)).mp hlow
    omega

theorem exists_findSome?_range {β : Type} {f : Nat → Option β} {n k : Nat} (hk : k < n)
    (h : (f k).isSome = true) :
    ∃ j ≤ k, ∃ b, f j = some b ∧ (List.range n).findSome? f = some b := by
  obtain ⟨m,rfl⟩ := Nat.exists_eq_add_of_le (Nat.succ_le_of_lt hk)
  have hfound : ((List.range k.succ).findSome? f).isSome = true :=
    List.findSome?_isSome_iff.mpr ⟨k,List.mem_range.mpr k.lt_succ_self,h⟩
  obtain ⟨b,hb⟩ := Option.isSome_iff_exists.mp hfound
  obtain ⟨j,hj,hfj⟩ := List.exists_of_findSome?_eq_some hb
  refine ⟨j,Nat.le_of_lt_succ (List.mem_range.mp hj),b,hfj,?_⟩
  rw [List.range_add,List.findSome?_append,hb]
  rfl

/-- The shortest decimal of a whole number is the number itself. -/
theorem isWhole_shortest {n : Nat} (hn : 0 < n) (hlt : n < tenPow 17) (negative : Bool)
    (tie : Tie) :
    ((wholeDyadic negative n).shortest tie).IsWhole n := by
  have haround := around_interval hn negative
  have hone := one_le_digitCount hn
  have hcount := digitCount_le hlt
  let i := (wholeDyadic negative n).interval
  let candidate (j : Nat) : Option Scaled :=
    ((i.inUnits (digitCount n - ((j : Int) + 1))).hit? tie).map fun digits =>
      Scaled.trim ⟨digits,digitCount n - ((j : Int) + 1)⟩
  have hshortest : (wholeDyadic negative n).shortest tie =
      ((List.range 17).findSome? candidate).getD ⟨0,0⟩ := by
    rw [Dyadic.shortest,haround.magnitude hn]
  have hunit {j : Nat} (hj : j ≤ digitCount n - 1) :
      (digitCount n : Int) - ((j : Int) + 1) = ((digitCount n - 1 - j : Nat) : Int) := by omega
  have hlast : (candidate (digitCount n - 1)).isSome = true := by
    have hzero : (digitCount n : Int) - (((digitCount n - 1 : Nat) : Int) + 1) = 0 := by omega
    simp only [candidate,hzero,Option.isSome_map]
    exact haround.isSome_hit? tie
  obtain ⟨j,hj,s,hs,hfound⟩ := exists_findSome?_range (n := 17) (by omega) hlast
  rw [hshortest,hfound,Option.getD_some]
  simp only [candidate,hunit hj] at hs
  obtain ⟨d,hd,rfl⟩ := Option.map_eq_some_iff.mp hs
  exact Scaled.IsWhole.trim ⟨Int.natCast_nonneg _,haround.eq_of_hit? hd⟩

/-- Documents write a whole number with all its digits and one decimal. -/
theorem chars_wholeDyadic {n : Nat} (hn : 0 < n) (hlt : n < tenPow 16) (negative : Bool) :
    documentStyle.chars (wholeDyadic negative n) = signed negative (digitChars n ++ ['.','0']) := by
  have hwhole : ((wholeDyadic negative n).shortest documentStyle.tie).IsWhole n :=
    isWhole_shortest hn (lt_trans hlt (by decide)) negative _
  have hlength : (digitChars n).length ≤ 16 :=
    (Nat.length_toDigits_le_iff (by decide) (by decide)).mpr hlt
  have hpos : 0 < (digitChars n).length := Nat.length_toDigits_pos
  have hsignificand : (wholeDyadic negative n).significand ≠ 0 :=
    (Nat.mul_pos hn (Nat.two_pow_pos _)).ne'
  have hinPlace :
      (documentStyle.least ≤ ((wholeDyadic negative n).shortest documentStyle.tie).leading &&
        ((wholeDyadic negative n).shortest documentStyle.tie).leading ≤ documentStyle.greatest) =
        true := by
    rw [hwhole.leading hn,Bool.and_eq_true,decide_eq_true_iff,decide_eq_true_iff]
    change -5 ≤ _ ∧ _ ≤ 15
    omega
  unfold NumberStyle.chars
  rw [if_neg hsignificand]
  dsimp only
  rw [if_pos hinPlace,if_pos hwhole.exponent,hwhole.positional hn]
  rfl

/-! ### Rounded texts -/

/-- A whole number is within half a unit of the magnitude of a number. -/
def Dyadic.RoundsTo (d : Dyadic) (n : Nat) : Prop :=
  |(d.quotient.1 : Rat) / d.quotient.2 - n| ≤ 1 / 2

theorem Dyadic.roundsTo_roundDiv (d : Dyadic) (tie : Tie) :
    d.RoundsTo (roundDiv d.quotient.1 d.quotient.2 tie) := by
  have hden : (0 : Rat) < d.quotient.2 := by exact_mod_cast d.quotient_den_pos
  obtain ⟨hlow,hhigh⟩ := roundDiv_within_half d.quotient.1 d.quotient.2 tie d.quotient_den_pos
  qify at hlow hhigh
  rw [RoundsTo,abs_le,le_sub_iff_add_le,sub_le_iff_le_add,le_div_iff₀ hden,div_le_iff₀ hden]
  exact ⟨by linarith,by linarith⟩

/-- Without decimals a number is written as its sign and the nearest whole number. -/
theorem exists_fixed_zero {x : Float} {d : Dyadic} (h : Reading.ofFloat x = .finite d) :
    ∃ n, d.RoundsTo n ∧ fixed 0 x = String.ofList (signed d.negative (digitChars n)) := by
  refine ⟨_,d.roundsTo_roundDiv .toEven,?_⟩
  rw [fixed,h]
  simp [fixedChars,tenPow]

end Blueprint.Decimal
