/-!
# Hexadecimal digits

Digits are read in either letter case.  Percent coding writes bytes in upper
case, and identifiers and escapes are written in lower case.
-/

namespace KeysetPaging.Text

/-- The value of a hexadecimal digit of either case. -/
def hexValue? (c : Char) : Option Nat :=
  if '0' ≤ c ∧ c ≤ '9' then some (c.toNat - '0'.toNat)
  else if 'a' ≤ c ∧ c ≤ 'f' then some (c.toNat - 'a'.toNat + 10)
  else if 'A' ≤ c ∧ c ≤ 'F' then some (c.toNat - 'A'.toNat + 10)
  else none

def hexDigits (n : Nat) : List Char :=
  Nat.toDigits 16 n

def upperHexDigit (n : Nat) : Char :=
  (Nat.digitChar n).toUpper

theorem hexValue?_upperHexDigit {n : Nat} (small : n < 16) :
    hexValue? (upperHexDigit n) = some n := by
  revert n
  decide

end KeysetPaging.Text
