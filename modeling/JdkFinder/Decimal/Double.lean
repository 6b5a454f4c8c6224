/-!
# Double precision

Numbers of 53 binary digits and a power of two, without their sign.  A quotient is rounded to the
next such number, and of two at the same distance to the one whose last digit is zero.  All is done
in whole numbers, so that nothing is rounded but at the end.
-/

namespace JdkFinder

/-- A number of double precision without its sign: `mantissa * 2 ^ exponent`.  The mantissa has 53
binary digits, or fewer if the exponent is the least one. -/
structure Double where
  mantissa : Nat
  exponent : Int
  deriving DecidableEq, Repr

namespace Double

/-! ## §1 Rounding -/

def leastExponent : Int := -1074

def greatestExponent : Int := 971

/-- The whole number next to a quotient, of two at the same distance the even one. -/
def roundedQuotient (num den : Nat) : Nat :=
  let low := num / den
  let rest := num % den
  if den < 2 * rest ∨ (den = 2 * rest ∧ low % 2 = 1) then low + 1 else low

/-- The exponent for a quotient: the least one at which its mantissa has at most 53 digits. -/
def exponentOf (num den : Nat) : Int :=
  -- The numbers of digits leave the choice between two exponents.
  let low : Int := num.log2 - den.log2 - 53
  let fits := num * Nat.pow 2 (-low).toNat < den * Nat.pow 2 low.toNat * Nat.pow 2 53
  max (if fits then low else low + 1) leastExponent

/-- The number next to a quotient, unless it is too large. -/
def ofQuotient? (num den : Nat) : Option Double :=
  let e := exponentOf num den
  let m := roundedQuotient (num * Nat.pow 2 (-e).toNat) (den * Nat.pow 2 e.toNat)
  -- Rounding may give the mantissa one digit more.
  let d : Double := if m = Nat.pow 2 53 then ⟨Nat.pow 2 52, e + 1⟩ else ⟨m, e⟩
  if greatestExponent < d.exponent then none else some d

/-! ## §2 Arithmetic -/

/-- The number as a fraction: what stands above the line. -/
def numerator (d : Double) : Nat :=
  d.mantissa * Nat.pow 2 d.exponent.toNat

/-- The number as a fraction: what stands below the line. -/
def denominator (d : Double) : Nat :=
  Nat.pow 2 (-d.exponent).toNat

/-- A product, unless it is too large. -/
def mul? (a b : Double) : Option Double :=
  ofQuotient? (a.numerator * b.numerator) (a.denominator * b.denominator)

/-- A quotient, unless it is too large. -/
def div? (a b : Double) : Option Double :=
  ofQuotient? (a.numerator * b.denominator) (a.denominator * b.numerator)

/-- The greatest power of ten that there is in double precision. -/
def greatestPower : Nat := 308

/-- A number divided by a power of ten; where there is none so great, in several steps. -/
def shrink? (d : Double) (power : Nat) : Option Double := do
  if power ≤ greatestPower then d.div? (← ofQuotient? (Nat.pow 10 power) 1)
  else if d.mantissa = 0 then some d
  else (← d.div? (← ofQuotient? (Nat.pow 10 greatestPower) 1)).shrink? (power - greatestPower)
termination_by power
decreasing_by simp only [greatestPower] at *; omega

/-- `n * 10 ^ e`, where `n` and the power of ten are rounded before they are multiplied or divided,
unless the result is too large. -/
def scaled? (n : Nat) (e : Int) : Option Double := do
  let d ← ofQuotient? n 1
  if e < 0 then d.shrink? (-e).toNat
  else if n = 0 then some d
  else if greatestPower < e.toNat then none
  else d.mul? (← ofQuotient? (Nat.pow 10 e.toNat) 1)

end Double

end JdkFinder
