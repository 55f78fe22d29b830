/-!
Codes in hexadecimal. Main statement: a digit is read as the number that it is written for.
-/

namespace Blueprint.Text

/-- The hexadecimal digits of a code, without leading zeros. -/
def hexChars (code : Nat) : List Char := Nat.toDigits 16 code

/-- The number that a hexadecimal digit stands for, whatever its case. -/
def hexValue? (c : Char) : Option Nat :=
  if c.isDigit then some (c.toNat - '0'.toNat)
  else if 'a' ≤ c ∧ c ≤ 'f' then some (c.toNat - 'a'.toNat + 10)
  else if 'A' ≤ c ∧ c ≤ 'F' then some (c.toNat - 'A'.toNat + 10)
  else none

theorem hexValue?_digitChar {n : Nat} (h : n < 16) :
    hexValue? (Nat.digitChar n) = some n ∧ hexValue? (Nat.digitChar n).toUpper = some n := by
  revert n
  decide

end Blueprint.Text
