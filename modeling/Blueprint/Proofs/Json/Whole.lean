import Blueprint.Proofs.Decimal.WholeText
import Blueprint.Proofs.Json.Number

/-!
Whole numbers in JSON texts. A whole number is written with one decimal, so it is read as ten times
itself and divided by ten again; while ten times the number is a float, nothing is rounded, and the
number is carried.
-/

namespace Blueprint.Json

open Decimal (digitChars signed tenPow)
open Document

/-! ### How whole numbers are written -/

theorem floatChars_ofNat {m : Nat} (h : m < 2 ^ 53) (hlt : m < tenPow 16) (negative : Bool) :
    floatChars (signedFloat negative (Float.ofNat m)) =
      signed negative (digitChars m ++ ['.','0']) := by
  rcases Nat.eq_zero_or_pos m with rfl | hm
  · cases negative <;> decide +kernel
  · have hread : Decimal.Reading.ofFloat (signedFloat negative (Float.ofNat m)) =
        .finite (Decimal.wholeDyadic negative m) := by
      cases negative with
      | false => exact Decimal.ofFloat_ofNat hm h
      | true => exact Decimal.ofFloat_neg_ofNat hm h
    unfold floatChars
    rw [hread]
    exact Decimal.chars_wholeDyadic hm hlt negative

/-! ### How they are read -/

theorem le_ofDigitChars (ds : List Char) (k : Nat) : k ≤ Nat.ofDigitChars 10 ds k := by
  rw [Nat.ofDigitChars_eq_ofDigitChars_zero]
  have : k ≤ 10 ^ ds.length * k := Nat.le_mul_of_pos_left k (Nat.pow_pos (by decide))
  omega

/-- Digits are all gathered while the number that they make fits. -/
theorem gather_eq (ds : List Char) (k : Nat) (h : Nat.ofDigitChars 10 ds k < Decimal.twoPow 64) :
    gather k ds = (Nat.ofDigitChars 10 ds k,ds.length) := by
  induction ds generalizing k with
  | nil => simp [gather,Nat.ofDigitChars_nil]
  | cons d ds ih =>
    have hnext : 10 * k + (d.toNat - '0'.toNat) = k * 10 + digitValue d := by
      rw [Nat.mul_comm]
      rfl
    rw [Nat.ofDigitChars_cons,hnext] at h ⊢
    rw [gather,if_pos (lt_of_le_of_lt (le_ofDigitChars ds _) h),ih _ h]
    rfl

theorem gather_digitChars {m : Nat} (h : m < Decimal.twoPow 64) :
    gather 0 (digitChars m) = (m,(digitChars m).length) := by
  have hvalue : Nat.ofDigitChars 10 (digitChars m) 0 = m := Nat.ofDigitChars_ten_toDigits
  rw [gather_eq _ _ (by rwa [hvalue]),hvalue]

theorem powerOfTen_one : powerOfTen 1 = Float.ofNat 10 := by decide +kernel

theorem ofNat_div_powerOfTen {m : Nat} (h : m * 10 < 2 ^ 53) :
    Float.ofNat (m * 10) / powerOfTen 1 = Float.ofNat m := by
  rw [powerOfTen_one]
  rcases Nat.eq_zero_or_pos m with rfl | hm
  · rfl
  · exact Decimal.ofNat_mul_div_ofNat hm (by decide) h

theorem value_whole {m : Nat} (h : m * 10 < 2 ^ 53) (negative : Bool) (stop : Nat) :
    NumberParts.value ⟨negative,digitChars m,['0'],true,none,stop⟩ =
      .ok (.float (signedFloat negative (Float.ofNat m))) := by
  have hfits : m < Decimal.twoPow 64 := by
    change m < 2 ^ 64
    omega
  have hbehind : gather m ['0'] = (m * 10,1) := by
    have hsmall : m * 10 + digitValue '0' < Decimal.twoPow 64 := by
      change m * 10 + 0 < 2 ^ 64
      omega
    rw [gather,if_pos hsmall]
    rfl
  have hshift : (((digitChars m).length - (digitChars m).length : Nat) : Int) - (1 : Nat) = -1 := by
    omega
  have hscale : scaleBy 4 (Float.ofNat (m * 10)) (-1) = some (Float.ofNat m) :=
    congrArg some (ofNat_div_powerOfTen h)
  unfold NumberParts.value
  simp only [gather_digitChars hfits,hbehind,hshift,Bool.true_or,if_true,hscale]

theorem digitChars_ne_nil (m : Nat) : digitChars m ≠ [] := Nat.toDigits_ne_nil

/-- Only zero begins with the digit zero. -/
theorem eq_zero_of_digitChars {m : Nat} {ds : List Char} (h : digitChars m = '0' :: ds) :
    m = 0 := by
  induction m using Nat.strongRecOn generalizing ds with
  | _ m ih =>
    by_cases hm : m < 10
    · have hdigit : ∀ k < 10, Nat.digitChar k = '0' → k = 0 := by decide
      rw [digitChars,Nat.toDigits_of_lt_base hm] at h
      exact hdigit m hm (List.cons.inj h).1
    · rw [digitChars,Nat.toDigits_of_base_le (by decide) (by omega)] at h
      obtain ⟨d,ds',hcons⟩ := List.exists_cons_of_ne_nil (digitChars_ne_nil (m / 10))
      have hhead : d :: (ds' ++ [Nat.digitChar (m % 10)]) = '0' :: ds := by
        rw [← h,← List.cons_append,← hcons]
        rfl
      have := ih (m / 10) (by omega) (hcons.trans (by rw [(List.cons.inj hhead).1]))
      omega

theorem readUnsigned_whole {m : Nat} (h : m * 10 < 2 ^ 53) (negative : Bool) (i : Nat) :
    (readUnsigned negative ⟨digitChars m ++ ['.','0'],i⟩).Reads
      (.float (signedFloat negative (Float.ofNat m))) [] := by
  have hdigits : ∀ c ∈ digitChars m, c.isDigit = true := fun c hc =>
    Nat.isDigit_of_mem_toDigits (by decide) (by decide) hc
  obtain ⟨d,ds,hcons⟩ := List.exists_cons_of_ne_nil (digitChars_ne_nil m)
  have htake : (digitChars m ++ ['.','0']).takeWhile Char.isDigit = digitChars m := by
    rw [List.takeWhile_append_of_pos hdigits]
    exact List.append_nil _
  have hdrop : (digitChars m ++ ['.','0']).dropWhile Char.isDigit = ['.','0'] :=
    List.dropWhile_append_of_pos hdigits
  have hsome : (digitChars m).isEmpty = false := by
    rw [hcons]
    rfl
  have hzero : ¬ (decide (d = '0') && decide ((digitChars m).length ≠ 1)) = true := by
    simp only [Bool.and_eq_true,decide_eq_true_iff,not_and,not_not]
    rintro rfl
    obtain rfl := eq_zero_of_digitChars hcons
    rfl
  have hcursor : digitChars m ++ ['.','0'] = d :: (ds ++ ['.','0']) := by
    rw [hcons]
    rfl
  have hread : readUnsigned negative ⟨digitChars m ++ ['.','0'],i⟩ =
      readFraction negative (digitChars m) ⟨['.','0'],i + byteLength (digitChars m)⟩ := by
    rw [hcursor] at htake hdrop ⊢
    unfold readUnsigned
    simp only [takeWhile_eq,htake,hdrop,hsome,Bool.false_eq_true,if_false]
    rw [if_neg hzero]
  rw [hread]
  exact ⟨value_whole h negative _,_,rfl⟩

theorem decode_whole {m : Nat} (h : m * 10 < 2 ^ 53) (negative : Bool) :
    decode Node.asFloat (signed negative (digitChars m ++ ['.','0'])) =
      .ok (signedFloat negative (Float.ofNat m)) := by
  cases negative with
  | false =>
    obtain ⟨d,ds,hcons⟩ := List.exists_cons_of_ne_nil (digitChars_ne_nil m)
    have hdigit : d.isDigit = true := Nat.isDigit_of_mem_toDigits (by decide) (by decide)
      (show d ∈ digitChars m by rw [hcons]; exact List.mem_cons_self)
    have hsign : ∀ s, d :: (ds ++ ['.','0']) ≠ '-' :: s := by
      intro s hs
      obtain rfl := (List.cons.inj hs).1
      cases hdigit
    have hreads := readUnsigned_whole h false 0
    rw [hcons,List.cons_append,← readNumber_of_ne hsign] at hreads
    change decode Node.asFloat (digitChars m ++ ['.','0']) = _
    rw [hcons]
    exact decode_asFloat_of_reads (by simp [hdigit]) hreads
  | true =>
    have hreads := readUnsigned_whole h true (0 + '-'.utf8Size)
    rw [← readNumber_minus] at hreads
    exact decode_asFloat_of_reads rfl hreads

theorem ofInt_eq_signedFloat (n : Int) :
    Float.ofInt n = signedFloat (decide (n < 0)) (Float.ofNat n.natAbs) := by
  cases n with
  | ofNat k =>
    have hsign : decide (Int.ofNat k < 0) = false := by simp
    rw [hsign]
    rfl
  | negSucc k =>
    have hsign : decide (Int.negSucc k < 0) = true := by simp [Int.negSucc_lt_zero]
    rw [hsign]
    rfl

/-- A whole number is carried while ten times the number is held exactly. -/
theorem carried_ofInt {n : Int} (h : n.natAbs * 10 < 2 ^ 53) : Carried (Float.ofInt n) := by
  have hlt : n.natAbs < tenPow 16 := by
    change n.natAbs < 10 ^ 16
    omega
  rw [ofInt_eq_signedFloat,Carried,floatChars_ofNat (by omega) hlt]
  exact decode_whole h _

end Blueprint.Json
