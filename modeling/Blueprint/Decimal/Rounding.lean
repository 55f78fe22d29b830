import Blueprint.Decimal.Power

/-!
Rounding a quotient of naturals to a whole number, and the number of digits of a natural.
Main statements: the rounded value is within half a unit of the quotient, and a digit count bounds
its number from below.
-/

namespace Blueprint.Decimal

/-- Where a quotient goes that lies half-way between two whole numbers. -/
inductive Tie where
  | toEven
  | up
  deriving DecidableEq, Repr, Inhabited

/-- Whether `low` gives way to `low + 1`, the quotient being half-way between them. -/
def Tie.raises (tie : Tie) (low : Nat) : Bool :=
  match tie with
  | .toEven => low % 2 == 1
  | .up => true

/-- The whole number nearest to `num / den`. -/
def roundDiv (num den : Nat) (tie : Tie) : Nat :=
  let low := num / den
  let twice := 2 * (num % den)
  if twice < den then low
  else if den < twice then low + 1
  else if tie.raises low then low + 1 else low

theorem roundDiv_within_half (num den : Nat) (tie : Tie) (h : 0 < den) :
    2 * num ≤ 2 * (roundDiv num den tie * den) + den ∧
      2 * (roundDiv num den tie * den) ≤ 2 * num + den := by
  have hn : den * (num / den) + num % den = num := Nat.div_add_mod num den
  have hm : num % den < den := Nat.mod_lt _ h
  have hc : num / den * den = den * (num / den) := Nat.mul_comm _ _
  unfold roundDiv
  simp only
  split
  · omega
  · split
    · rw [Nat.add_mul,Nat.one_mul]; omega
    · split
      · rw [Nat.add_mul,Nat.one_mul]; omega
      · omega

/-- How many decimal digits a natural has; zero has none. -/
def digitCount (n : Nat) : Nat :=
  if n = 0 then 0 else digitCount (n / 10) + 1
termination_by n

theorem tenPow_digitCount_le (n : Nat) (h : 0 < n) : tenPow (digitCount n - 1) ≤ n := by
  induction n using Nat.strongRecOn with
  | _ n ih =>
    rw [digitCount,if_neg (by omega),Nat.add_sub_cancel]
    by_cases hz : n / 10 = 0
    · rw [hz,digitCount,if_pos rfl]
      exact h
    · have := ih (n / 10) (by omega) (by omega)
      have hp : 0 < digitCount (n / 10) := by
        rw [digitCount,if_neg hz]
        omega
      obtain ⟨k,hk⟩ := Nat.exists_eq_add_of_lt hp
      have he : digitCount (n / 10) = k + 1 := by omega
      rw [he] at this ⊢
      rw [Nat.add_sub_cancel] at this
      rw [tenPow_succ]
      omega

end Blueprint.Decimal
