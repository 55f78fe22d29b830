import Blueprint.Scalar
import Mathlib

/-!
Floats taken apart into a sign, a whole significand and a power of two. What a float is taken apart
into is packed to the same float again, and is what its bits are read as.
-/

namespace Blueprint.Decimal

open Float.Model (UnpackedFloat)
open Float.Model.Format (binary64)
open Float.Model.UnpackedFloat

/-- The significands and exponents that floats of 64 bits hold. -/
structure Fits (m : Nat) (e : Int) : Prop where
  lt : m < 2 ^ 53
  least : -1074 ≤ e
  greatest : e ≤ 971
  /-- Only the smallest floats leave the leading bit empty. -/
  full : 2 ^ 52 ≤ m ∨ e = -1074

theorem toNat_append_one {n : Nat} (v : BitVec n) : (1#1 ++ v).toNat = 2 ^ n + v.toNat := by
  rw [BitVec.toNat_append,← Nat.shiftLeft_add_eq_or_of_lt v.isLt]
  simp [Nat.shiftLeft_eq]

/-- What the three fields of a float are taken apart into. -/
theorem unpack_packComponents (s : Sign) (e : BitVec 11) (m : BitVec 52) :
    unpack binary64 (packComponents binary64 s e m) =
      if e = -1#11 then
        if m = 0#52 then .infinity s else .notANumber
      else if e = 0#11 then
        if h : m = 0#52 then .zero s
        else .finite s m.toNat (-1074) (by simpa [BitVec.toNat_pos,BitVec.pos_iff_ne_zero])
      else .finite s (1#1 ++ m).toNat ((e.toNat : Int) - 1075)
        (by rw [toNat_append_one]; omega) := by
  unfold unpack
  simp only [unpackMantissa_packComponents,unpackExponent_packComponents,
    unpackSign_packComponents,Sign.ofBitVec_toBitVec]
  split
  · rfl
  · split
    · rename_i he
      subst he
      rfl
    · rfl

section Pack

variable (s : Sign) {m : Nat} {e : Int} (hm : 0 < m)

/-- How a number that fits is packed: the leading bit is left out, or the exponent is zero. -/
theorem pack_finite (h : Fits m e) : pack binary64 (.finite s m e hm) =
    if 2 ^ 52 ≤ m then
      packComponents binary64 s (BitVec.ofNat 11 (e + 1075).toNat) (BitVec.ofNat 52 m)
    else packComponents binary64 s 0#11 (BitVec.ofNat 52 m) := by
  have hbiased : (e + 1023 + 52).toNat = (e + 1075).toNat := by omega
  have hfinite : ¬ 2 ^ 11 ≤ (e + 1023 + 52).toNat + 1 := by
    have := h.greatest
    omega
  have hfull : m.log2 + 1 = 53 ↔ 2 ^ 52 ≤ m := by
    rw [← Nat.le_log2 hm.ne']
    have := (Nat.log2_lt hm.ne').mpr h.lt
    omega
  have hpack : pack binary64 (.finite s m e hm) =
      if m.log2 + 1 = 53 then
        packComponents binary64 s (BitVec.ofNat 11 (e + 1023 + 52).toNat) (BitVec.ofNat 52 m)
      else packComponents binary64 s 0#11 (BitVec.ofNat 52 m) :=
    if_neg hfinite
  rw [hpack,hbiased]
  exact if_congr hfull rfl rfl

/-- A number that fits is taken apart into what it is packed from. -/
theorem unpack_pack_finite (h : Fits m e) :
    unpack binary64 (pack binary64 (.finite s m e hm)) = .finite s m e hm := by
  rw [pack_finite s hm h]
  obtain ⟨hlt,hleast,hgreatest,hfull⟩ := h
  by_cases hfull' : 2 ^ 52 ≤ m
  · have hfield : (BitVec.ofNat 11 (e + 1075).toNat).toNat = (e + 1075).toNat := by
      rw [BitVec.toNat_ofNat]
      omega
    have hinf : BitVec.ofNat 11 (e + 1075).toNat ≠ -1#11 := by
      rw [← BitVec.toNat_ne_iff_ne,hfield]
      change _ ≠ 2047
      omega
    have hzero : BitVec.ofNat 11 (e + 1075).toNat ≠ 0#11 := by
      rw [← BitVec.toNat_ne_iff_ne,hfield]
      change _ ≠ 0
      omega
    have hsignificand : (1#1 ++ BitVec.ofNat 52 m).toNat = m := by
      rw [toNat_append_one,BitVec.toNat_ofNat]
      omega
    rw [if_pos hfull',unpack_packComponents,if_neg hinf,if_neg hzero]
    simp only [hsignificand,hfield]
    congr 1
    omega
  · have he : e = -1074 := hfull.resolve_left hfull'
    have hfraction : (BitVec.ofNat 52 m).toNat = m := by
      rw [BitVec.toNat_ofNat]
      omega
    have hzero : BitVec.ofNat 52 m ≠ 0#52 := by
      rw [← BitVec.toNat_ne_iff_ne,hfraction]
      exact hm.ne'
    subst he
    rw [if_neg hfull',unpack_packComponents,if_neg (by decide),if_pos rfl,dif_neg hzero]
    simp only [hfraction]

end Pack

/-- Packing loses nothing of what a float is taken apart into. -/
theorem pack_unpack_model (x : Float.Model) : Float.Model.pack x.unpack = x := by
  obtain ⟨bits,hvalid⟩ := x
  have hbits : pack binary64 (unpack binary64 bits.toBitVec) = bits.toBitVec :=
    pack_unpack_of_valid hvalid
  simp only [Float.Model.pack,Float.Model.unpack,hbits]

/-- What a float that is taken apart stands for. -/
def Reading.ofUnpacked : UnpackedFloat → Reading
  | .infinity s => .infinite (s == .negative)
  | .notANumber => .nan
  | .zero s => .finite ⟨s == .negative,0,-1074⟩
  | .finite s m e _ => .finite ⟨s == .negative,m,e⟩

section Fields

variable (b : BitVec 64)

theorem toNat_unpackMantissa : (@unpackMantissa binary64 b).toNat = b.toNat % 2 ^ 52 := by
  simp [unpackMantissa]

theorem toNat_unpackExponent : (@unpackExponent binary64 b).toNat = b.toNat / 2 ^ 52 % 2 ^ 11 := by
  simp [unpackExponent,Nat.shiftRight_eq_div_pow]

theorem toNat_unpackSign : (@unpackSign binary64 b).toNat = b.toNat / 2 ^ 63 % 2 := by
  simp [unpackSign,Nat.shiftRight_eq_div_pow]

theorem ofBitVec_unpackSign : (Sign.ofBitVec (@unpackSign binary64 b) == .negative) =
    (b.toNat / 2 ^ 63 % 2 == 1) := by
  rw [← toNat_unpackSign]
  rcases BitVec.eq_zero_or_eq_one (@unpackSign binary64 b) with h | h <;> rw [h] <;> rfl

/-- What bits stand for, told by their three fields. -/
theorem Reading.ofBits_eq : Reading.ofBits b.toNat =
    if @unpackExponent binary64 b = -1#11 then
      if @unpackMantissa binary64 b = 0#52 then
        .infinite (Sign.ofBitVec (@unpackSign binary64 b) == .negative) else .nan
    else if @unpackExponent binary64 b = 0#11 then
      .finite ⟨Sign.ofBitVec (@unpackSign binary64 b) == .negative,
        (@unpackMantissa binary64 b).toNat,-1074⟩
    else .finite ⟨Sign.ofBitVec (@unpackSign binary64 b) == .negative,
      (@unpackMantissa binary64 b).toNat + 2 ^ 52,
      ((@unpackExponent binary64 b).toNat : Int) - 1075⟩ := by
  have hfields {n : Nat} (v u : BitVec n) : (v.toNat == u.toNat) = true ↔ v = u := by
    rw [beq_iff_eq,BitVec.toNat_inj]
  rw [ofBitVec_unpackSign,← if_congr (hfields _ _) rfl rfl,← if_congr (hfields _ _) rfl rfl,
    ← if_congr (hfields _ _) rfl rfl,toNat_unpackMantissa,toNat_unpackExponent]
  rfl

end Fields

/-- The bits of a float are read as what it is taken apart into. -/
theorem Reading.ofFloat_eq (x : Float) : Reading.ofFloat x = .ofUnpacked x.toModel.unpack := by
  change Reading.ofBits x.toBits.toBitVec.toNat = .ofUnpacked (unpack binary64 x.toBits.toBitVec)
  rw [Reading.ofBits_eq]
  unfold unpack
  dsimp only
  split
  · split <;> rfl
  · split
    · rename_i hzero
      rw [hzero]
      split
      · rename_i hnone
        rw [hnone]
        rfl
      · rfl
    · rw [Nat.add_comm _ (2 ^ 52),← toNat_append_one]
      rfl

/-! ### Zero -/

/-- Adding zero changes nothing but the sign of zero. -/
theorem add_zero_eq_or (x : Float) :
    x + Scalar.zero = x ∨ x = -Scalar.zero ∧ x + Scalar.zero = Scalar.zero := by
  have hsum : x + Scalar.zero = Float.ofModel
      (Float.Model.pack (UnpackedFloat.add binary64 x.toModel.unpack (.zero .positive))) := rfl
  have hself : x = Float.ofModel (Float.Model.pack x.toModel.unpack) :=
    congrArg Float.ofModel (pack_unpack_model x.toModel).symm
  cases h : x.toModel.unpack with
  | zero s =>
    rw [h] at hsum hself
    cases s with
    | positive => exact Or.inl (hsum.trans hself.symm)
    | negative => exact Or.inr ⟨hself,hsum⟩
  | _ =>
    rw [h] at hsum hself
    exact Or.inl (hsum.trans hself.symm)

/-- Adding zero gives a float that compares equal. -/
theorem beq_add_zero {x y : Float} (h : (x == y) = true) : (x + Scalar.zero == y) = true := by
  rcases add_zero_eq_or x with hx | ⟨hx,hzero⟩
  · rw [hx]
    exact h
  · rw [hx] at h
    rw [hzero]
    have hsigns : ((Scalar.zero : Float) == -Scalar.zero) = true := rfl
    exact BEq.trans hsigns h

theorem beq_self {x : Float} (h : x.isNaN = false) : (x == x) = true := by
  rw [Float.isNaN_eq_decide_eq_nan,decide_eq_false_iff_not] at h
  exact Float.beq_self_iff.mpr h

end Blueprint.Decimal
