set_option autoImplicit false

/-!
# Numerals

Whole numbers written in digits of a base up to 16.  A number is read only if it
stays below a bound; reading stops at the first digit that takes it there, so a
long row of digits costs no more than its length.
-/

namespace Admission.Text

/-- The value of a hexadecimal digit. -/
def hexDigit? (c : Char) : Option Nat :=
  if '0' ≤ c ∧ c ≤ '9' then some (c.toNat - '0'.toNat)
  else if 'a' ≤ c ∧ c ≤ 'f' then some (c.toNat - 'a'.toNat + 10)
  else if 'A' ≤ c ∧ c ≤ 'F' then some (c.toNat - 'A'.toNat + 10)
  else none

/-- The value of a digit in a base up to 16. -/
def digit? (base : Nat) (c : Char) : Option Nat :=
  (hexDigit? c).filter (· < base)

/-- The number below `bound` that digits spell after those that spell `n`. -/
def numeralAfter? (base bound : Nat) : Nat → List Char → Option Nat
  | n, [] => if n < bound then some n else none
  | n, c :: cs =>
    if n < bound then (digit? base c).bind fun d => numeralAfter? base bound (n * base + d) cs
    else none

/-- The number below `bound` that digits spell, if there are any. -/
def numeral? (base bound : Nat) (cs : List Char) : Option Nat :=
  if cs.isEmpty then none else numeralAfter? base bound 0 cs

end Admission.Text
