import JdkFinder.Decimal.Double

/-!
# Shortest decimals

The decimal of the fewest digits that is rounded to a given number of double precision.
-/

namespace JdkFinder.Double

/-- What is rounded to a number lies between these bounds, which are given in quarters of the unit
of its mantissa. -/
def bounds (d : Double) : Nat × Nat :=
  -- Below the least mantissa the numbers lie twice as close.
  let isLeast := d.mantissa = Nat.pow 2 52 ∧ leastExponent < d.exponent
  (4 * d.mantissa - (if isLeast then 1 else 2), 4 * d.mantissa + 2)

/-- The number of steps of `10 ^ power` that lead from zero to the number, as near as can be, if
what they lead to is rounded to it. -/
def stepsTo? (d : Double) (power : Int) : Option Nat :=
  let quarter := d.exponent - 2
  let step := Nat.pow 10 power.toNat * Nat.pow 2 (-quarter).toNat
  let unit := Nat.pow 2 quarter.toNat * Nat.pow 10 (-power).toNat
  let (least, greatest) := d.bounds
  -- The bounds themselves are rounded to an even mantissa.
  let isEven := d.mantissa % 2 = 0
  let goal := 4 * d.mantissa * unit
  let low := goal / step
  let lowFits := least * unit < low * step ∨ (isEven ∧ least * unit = low * step)
  let highFits :=
    (low + 1) * step < greatest * unit ∨ (isEven ∧ (low + 1) * step = greatest * unit)
  if lowFits ∧ highFits then some (roundedQuotient goal step)
  else if lowFits then some low
  else if highFits then some (low + 1)
  else none

/-- The shortest decimal for a number that is not zero: its digits, and the power of ten that they
count. -/
def shortest (d : Double) : Nat × Int :=
  let length (n : Nat) : Int := (Nat.toDigits 10 n).length
  let top := length d.numerator - length d.denominator + 1
  -- Seventeen digits always suffice.
  let powers := (List.range 20).map fun (i : Nat) => top - i
  (powers.findSome? fun power => (d.stepsTo? power).map (·, power)).getD (0, 0)

end JdkFinder.Double
