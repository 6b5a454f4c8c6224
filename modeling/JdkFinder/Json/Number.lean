import JdkFinder.Decimal.Double

/-!
# Numbers of JSON

A number of JSON is kept as it is written.  It means a whole number if it is written as one and
fits into 64 bits, and a number of double precision otherwise.
-/

namespace JdkFinder

/-- A number as it is written: a sign, the digits before and after the point read as one natural
number, and the power of ten that scales them. -/
structure JsonNumber where
  negative : Bool
  digits : Nat
  exponent : Int
  /-- Whether the number is written without fraction and exponent. -/
  integral : Bool
  deriving DecidableEq, Repr

namespace JsonNumber

/-- The natural number `n`. -/
def ofNat (n : Nat) : JsonNumber :=
  ⟨false, n, 0, true⟩

/-- The natural number that is written, if it is written as one. -/
def toNat? (n : JsonNumber) : Option Nat :=
  if n.integral && !n.negative then some n.digits else none

/-- Whether the number means a whole number.  A zero with a minus is none. -/
def isWhole (n : JsonNumber) : Bool :=
  n.integral
    && (if n.negative then 0 < n.digits && n.digits ≤ Nat.pow 2 63 else n.digits < Nat.pow 2 64)

/-- The digits at the front that fit into 64 bits, and the number of those behind them. -/
def leadingDigits (n : Nat) : Nat × Nat :=
  if n < Nat.pow 2 64 then (n, 0)
  else
    let (front, behind) := leadingDigits (n / 10)
    (front, behind + 1)
termination_by n
decreasing_by simp only [Nat.pow_eq] at *; omega

/-- The number in double precision without its sign, unless it is too large.  Digits that do not fit
into 64 bits count as zeros. -/
def toDouble? (n : JsonNumber) : Option Double :=
  let (front, behind) := leadingDigits n.digits
  Double.scaled? front (n.exponent + behind)

/-- Whether the number means anything: one that is too large does not. -/
def hasValue (n : JsonNumber) : Bool :=
  n.isWhole || n.toDouble?.isSome

end JsonNumber

end JdkFinder
