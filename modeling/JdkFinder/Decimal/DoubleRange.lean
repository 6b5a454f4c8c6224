/-!
# The range of double precision

Whether a decimal number is too large to be rounded to a finite number of double precision.
-/

namespace JdkFinder.Decimal

/-- The least magnitude that rounds to infinity in double precision. -/
def doubleLimit : Nat :=
  Nat.pow 2 1024 - Nat.pow 2 970

/-- Whether `digits * 10 ^ exponent` rounds to infinity.  The number of digits decides all cases
but those near the limit. -/
def exceedsDouble (digits : Nat) (exponent : Int) : Bool :=
  let magnitude := (Nat.toDigits 10 digits).length + exponent
  digits != 0
    && (320 < magnitude
      || (300 < magnitude
        && (if 0 ≤ exponent then doubleLimit ≤ digits * Nat.pow 10 exponent.toNat
            else doubleLimit * Nat.pow 10 (-exponent).toNat ≤ digits)))

end JdkFinder.Decimal
