import Blueprint.Proofs.Decimal.Unpacked

/-!
Whole numbers as floats. Below `2 ^ 53` a whole number is a float without being rounded, and a
quotient of two of them that is whole is not rounded either.
-/

namespace Blueprint.Decimal

open Float.Model (UnpackedFloat totalExponent)
open Float.Model.Format (binary64)
open Float.Model.UnpackedFloat

theorem log2_mul_two_pow {m : Nat} (hm : 0 < m) (j : Nat) : (m * 2 ^ j).log2 = m.log2 + j := by
  induction j with
  | zero => simp
  | succ j ih =>
    have hpos : m * 2 ^ j ≠ 0 := (Nat.mul_pos hm (Nat.two_pow_pos j)).ne'
    have h : m * 2 ^ (j + 1) = 2 * (m * 2 ^ j) := by ring
    rw [h,Nat.log2_two_mul hpos,ih]
    omega

/-! ### Numbers that are not rounded -/

theorem shiftRight_mul_two_pow (m j : Nat) :
    (⟨m * 2 ^ j,false,false⟩ : ExtendedMantissa) >>> j = ⟨m,false,false⟩ := by
  change j.repeat ExtendedMantissa.shiftRightOne _ = _
  induction j generalizing m with
  | zero => simp [Nat.repeat]
  | succ j ih =>
    have h : m * 2 ^ (j + 1) = m * 2 * 2 ^ j := by ring
    rw [Nat.repeat,h,ih]
    simp [ExtendedMantissa.shiftRightOne]

theorem shiftToTargetExponent_mul_two_pow {m : Nat} {e : Int} (hm : 0 < m) (h : Fits m e)
    (j : Nat) :
    shiftToTargetExponent binary64 (m * 2 ^ j) (e - j) .exact = (⟨m,false,false⟩,e) := by
  have hlog : m.log2 ≤ 52 := by
    have := (Nat.log2_lt hm.ne').mpr h.lt
    omega
  have htarget : binary64.targetExponent (totalExponent (m * 2 ^ j) (e - j)) = e := by
    have htotal : totalExponent (m * 2 ^ j) (e - j) = m.log2 + 1 + e := by
      rw [totalExponent,log2_mul_two_pow hm]
      push_cast
      ring
    rw [htotal]
    change max ((m.log2 : Int) + 1 + e - 53) (-1074) = e
    rcases h.full with hfull | he
    · have := (Nat.le_log2 hm.ne').mpr hfull
      have := h.least
      omega
    · omega
  have hshift : (e - (e - (j : Int))).toNat = j := by omega
  unfold shiftToTargetExponent shiftToExponent
  simp only [htarget,hshift]
  refine Prod.ext (shiftRight_mul_two_pow m j) ?_
  change e - (j : Int) + j = e
  omega

/-- A number that fits is rounded to itself, with however many zeros behind it. -/
theorem roundWithAccuracy_mul_two_pow (s : Sign) {m : Nat} {e : Int} (hm : 0 < m) (h : Fits m e)
    (j : Nat) : roundWithAccuracy binary64 s (m * 2 ^ j) (e - j) .exact = .finite s m e hm := by
  have hagain := shiftToTargetExponent_mul_two_pow hm h 0
  simp only [pow_zero,mul_one,Nat.cast_zero,sub_zero] at hagain
  unfold roundWithAccuracy
  rw [shiftToTargetExponent_mul_two_pow hm h j]
  have hrounded : ExtendedMantissa.roundedMantissa ⟨m,false,false⟩ = m := rfl
  simp only [hrounded,hagain]
  exact dif_neg hm.ne'

/-! ### Whole numbers -/

/-- By how many bits a whole number is moved to fill the significand. -/
def wholeShift (n : Nat) : Nat := 52 - n.log2

/-- A whole number taken apart. -/
def wholeUnpacked (s : Sign) {n : Nat} (hn : 0 < n) : UnpackedFloat :=
  .finite s (n * 2 ^ wholeShift n) (-(wholeShift n : Int)) (Nat.mul_pos hn (Nat.two_pow_pos _))

section Whole

variable {n : Nat} (hn : 0 < n) (h : n < 2 ^ 53)
include hn h

theorem log2_add_wholeShift : n.log2 + wholeShift n = 52 := by
  have := (Nat.log2_lt hn.ne').mpr h
  unfold wholeShift
  omega

theorem fits_whole : Fits (n * 2 ^ wholeShift n) (-(wholeShift n : Int)) := by
  have hpos : n * 2 ^ wholeShift n ≠ 0 := (Nat.mul_pos hn (Nat.two_pow_pos _)).ne'
  have hlog : (n * 2 ^ wholeShift n).log2 = 52 := by
    rw [log2_mul_two_pow hn,log2_add_wholeShift hn h]
  obtain ⟨hlow,hhigh⟩ := (Nat.log2_eq_iff hpos).mp hlog
  have := log2_add_wholeShift hn h
  exact ⟨hhigh,by omega,by omega,Or.inl hlow⟩

theorem round_whole (s : Sign) {j : Nat} (hj : wholeShift n ≤ j) :
    roundWithAccuracy binary64 s (n * 2 ^ j) (-(j : Int)) .exact = wholeUnpacked s hn := by
  obtain ⟨i,rfl⟩ := Nat.exists_eq_add_of_le hj
  have hm : n * 2 ^ (wholeShift n + i) = n * 2 ^ wholeShift n * 2 ^ i := by ring
  have he : -((wholeShift n + i : Nat) : Int) = -(wholeShift n : Int) - i := by omega
  rw [hm,he]
  exact roundWithAccuracy_mul_two_pow s _ (fits_whole hn h) i

theorem unpack_pack_whole (s : Sign) :
    (Float.Model.pack (wholeUnpacked s hn)).unpack = wholeUnpacked s hn :=
  unpack_pack_finite s _ (fits_whole hn h)

theorem toModel_toFloat :
    n.toUInt64.toFloat.toModel = Float.Model.pack (wholeUnpacked .positive hn) := by
  have hsmall : n.toUInt64.toNat = n := Nat.mod_eq_of_lt (by omega)
  have hround : UnpackedFloat.ofNat binary64 n = UnpackedFloat.round binary64 .positive n 0 := by
    unfold UnpackedFloat.ofNat UnpackedFloat.ofInt UnpackedFloat.normalize
    rw [Int.compare_eq_gt.mpr (by omega)]
    rfl
  have htarget : binary64.targetExponent (totalExponent n 0) = -(wholeShift n : Int) := by
    have := log2_add_wholeShift hn h
    change max ((n.log2 : Int) + 1 + 0 - 53) (-1074) = _
    omega
  change Float.Model.pack (UnpackedFloat.ofNat binary64 n.toUInt64.toNat) = _
  rw [hsmall,hround,UnpackedFloat.round,htarget]
  simp only [decreaseExponent,Nat.shiftLeft_eq,zero_sub,neg_neg,Int.toNat_natCast]
  rw [round_whole hn h .positive (le_refl _)]

theorem toModel_ofNat :
    (Float.ofNat n).toModel = Float.Model.pack (wholeUnpacked .positive hn) := by
  have hscientific :
      Float.ofNat n = n.toUInt64.toFloat * Float.exactlyRepresentablePowersOfTen[0] :=
    dif_pos ⟨h,by decide⟩
  have hone : (Float.exactlyRepresentablePowersOfTen[0]).toModel.unpack =
      .finite .positive (2 ^ 52) (-52) (by decide) := rfl
  have hmul : (Float.ofNat n).toModel = Float.Model.pack (UnpackedFloat.mul binary64
      n.toUInt64.toFloat.toModel.unpack
      (Float.exactlyRepresentablePowersOfTen[0]).toModel.unpack) := by
    rw [hscientific]
    rfl
  rw [hmul,hone,toModel_toFloat hn h,unpack_pack_whole hn h]
  change Float.Model.pack (roundWithAccuracy binary64 .positive (n * 2 ^ wholeShift n * 2 ^ 52)
    (-(wholeShift n : Int) + -52) .exact) = _
  have hm : n * 2 ^ wholeShift n * 2 ^ 52 = n * 2 ^ (wholeShift n + 52) := by ring
  have he : -(wholeShift n : Int) + -52 = -((wholeShift n + 52 : Nat) : Int) := by omega
  rw [hm,he,round_whole hn h .positive (Nat.le_add_right _ _)]

end Whole

theorem log2_mul_le {a b : Nat} (ha : 0 < a) (hb : 0 < b) : (a * b).log2 ≤ a.log2 + b.log2 + 1 := by
  have hlt : a * b < 2 ^ (a.log2 + b.log2 + 2) := by
    calc a * b < 2 ^ (a.log2 + 1) * 2 ^ (b.log2 + 1) :=
          Nat.mul_lt_mul'' Nat.lt_log2_self Nat.lt_log2_self
      _ = 2 ^ (a.log2 + b.log2 + 2) := by ring
  have := (Nat.log2_lt (Nat.mul_pos ha hb).ne').mpr hlt
  omega

section Quotient

variable {a b : Nat} (ha : 0 < a) (hb : 0 < b) (h : a * b < 2 ^ 53)
include ha hb h

theorem divCore_whole {j : Nat} (hj : j + wholeShift b = wholeShift (a * b) + 53) :
    divCore binary64 (a * b * 2 ^ wholeShift (a * b)) (-(wholeShift (a * b) : Int))
      (b * 2 ^ wholeShift b) (-(wholeShift b : Int)) = (a * 2 ^ j,-(j : Int),.exact) := by
  have hab : 0 < a * b := Nat.mul_pos ha hb
  have hb' : b < 2 ^ 53 := lt_of_le_of_lt (Nat.le_mul_of_pos_left b ha) h
  have htotal {n : Nat} (hn : 0 < n) (h : n < 2 ^ 53) :
      totalExponent (n * 2 ^ wholeShift n) (-(wholeShift n : Int)) = 53 - wholeShift n := by
    have := log2_add_wholeShift hn h
    rw [totalExponent,log2_mul_two_pow hn,this]
    rfl
  have htarget : min (-(wholeShift (a * b) : Int) - -(wholeShift b : Int))
      (binary64.targetExponent (totalExponent (a * b * 2 ^ wholeShift (a * b))
        (-(wholeShift (a * b) : Int)) - totalExponent (b * 2 ^ wholeShift b)
        (-(wholeShift b : Int)))) = -(j : Int) := by
    have := log2_add_wholeShift hab h
    have := log2_add_wholeShift hb hb'
    rw [htotal hab h,htotal hb hb']
    change min _ (max (_ - 53) (-1074)) = _
    omega
  have hshift : (-(wholeShift (a * b) : Int) - -(wholeShift b : Int) - -(j : Int)).toNat = 53 := by
    omega
  have hdividend :
      (a * b * 2 ^ wholeShift (a * b)) <<< 53 = a * 2 ^ j * (b * 2 ^ wholeShift b) := by
    rw [Nat.shiftLeft_eq]
    calc a * b * 2 ^ wholeShift (a * b) * 2 ^ 53 = a * b * 2 ^ (wholeShift (a * b) + 53) := by ring
      _ = a * b * 2 ^ (j + wholeShift b) := by rw [hj]
      _ = a * 2 ^ j * (b * 2 ^ wholeShift b) := by ring
  unfold divCore
  rw [htarget]
  simp only [hshift,hdividend]
  rw [Nat.mul_div_cancel _ (Nat.mul_pos hb (Nat.two_pow_pos _)),Nat.mul_mod_left]
  rfl

/-- A quotient that is whole is not rounded. -/
theorem ofNat_mul_div_ofNat : Float.ofNat (a * b) / Float.ofNat b = Float.ofNat a := by
  have hab : 0 < a * b := Nat.mul_pos ha hb
  have ha' : a < 2 ^ 53 := lt_of_le_of_lt (Nat.le_mul_of_pos_right a hb) h
  have hb' : b < 2 ^ 53 := lt_of_le_of_lt (Nat.le_mul_of_pos_left b ha) h
  have hshifts : wholeShift a + wholeShift b ≤ wholeShift (a * b) + 53 := by
    have := log2_mul_le ha hb
    have := log2_add_wholeShift hab h
    have := log2_add_wholeShift ha ha'
    have := log2_add_wholeShift hb hb'
    omega
  obtain ⟨j,hj⟩ : ∃ j, j + wholeShift b = wholeShift (a * b) + 53 :=
    ⟨wholeShift (a * b) + 53 - wholeShift b,by omega⟩
  have hdiv :
      UnpackedFloat.div binary64 (wholeUnpacked .positive hab) (wholeUnpacked .positive hb) =
        wholeUnpacked .positive ha := by
    change (match divCore binary64 (a * b * 2 ^ wholeShift (a * b)) (-(wholeShift (a * b) : Int))
      (b * 2 ^ wholeShift b) (-(wholeShift b : Int)) with
      | (m,e,acc) => roundWithAccuracy binary64 .positive m e acc) = _
    rw [divCore_whole ha hb h hj]
    exact round_whole ha ha' .positive (by omega)
  have hmodel : (Float.ofNat (a * b) / Float.ofNat b).toModel = (Float.ofNat a).toModel := by
    change Float.Model.pack (UnpackedFloat.div binary64 (Float.ofNat (a * b)).toModel.unpack
      (Float.ofNat b).toModel.unpack) = _
    rw [toModel_ofNat hab h,toModel_ofNat hb hb',unpack_pack_whole hab h,unpack_pack_whole hb hb',
      hdiv,toModel_ofNat ha ha']
  exact congrArg Float.ofModel hmodel

end Quotient

end Blueprint.Decimal
