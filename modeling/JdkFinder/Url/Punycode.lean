/-!
# Punycode

A label of a domain name that holds other characters than those of ASCII is written with ASCII
alone: first its ASCII characters, then, after a hyphen, the places and code points of the others
as numbers of variable length in base 36.
-/

namespace JdkFinder.Punycode

/-! ## §1 Numbers -/

/-- The digit of a number below 36. -/
def digit (n : Nat) : Char :=
  if n < 26 then Char.ofNat ('a'.toNat + n) else Char.ofNat ('0'.toNat + (n - 26))

/-- The number of a digit. -/
def digitValue? (c : Char) : Option Nat :=
  if 'a' ≤ c ∧ c ≤ 'z' then some (c.toNat - 'a'.toNat)
  else if 'A' ≤ c ∧ c ≤ 'Z' then some (c.toNat - 'A'.toNat)
  else if '0' ≤ c ∧ c ≤ '9' then some (c.toNat - '0'.toNat + 26)
  else none

/-- The bias after a number: it follows the sizes of the numbers written. -/
def adapt (delta points : Nat) (isFirst : Bool) : Nat :=
  let delta := if isFirst then delta / 700 else delta / 2
  go 64 (delta + delta / points) 0
where
  /-- Divides the number until it is small. -/
  go : (fuel : Nat) → (delta k : Nat) → Nat
    | 0, delta, k => k + 36 * delta / (delta + 38)
    | fuel + 1, delta, k =>
      if 455 < delta then go fuel (delta / 35) (k + 36)
      else k + 36 * delta / (delta + 38)

/-- The threshold of the digit at weight `k`: smaller digits end a number. -/
def threshold (k bias : Nat) : Nat :=
  if k ≤ bias then 1 else if bias + 26 ≤ k then 26 else k - bias

/-- The digits of a number. -/
def writeNumber (bias : Nat) : (fuel : Nat) → (k n : Nat) → List Char
  | 0, _, _ => []
  | fuel + 1, k, n =>
    let t := threshold k bias
    if n < t then [digit n]
    else digit (t + (n - t) % (36 - t)) :: writeNumber bias fuel (k + 36) ((n - t) / (36 - t))

/-- Numbers of 32 bits are read. -/
def bound : Nat := Nat.pow 2 32

/-- The sum of `n` and a number, and what follows its digits. -/
def readNumber? (bias : Nat) : (k weight n : Nat) → List Char → Option (Nat × List Char)
  | _, _, _, [] => none
  | k, weight, n, c :: cs => do
    let d ← digitValue? c
    let t := threshold k bias
    if bound ≤ n + d * weight then none
    else if d < t then some (n + d * weight, cs)
    else if bound ≤ weight * (36 - t) then none
    else readNumber? bias (k + 36) (weight * (36 - t)) (n + d * weight) cs

/-! ## §2 Writing labels -/

/-- What is known while a label is written: the numbers are relative to the last one. -/
structure Position where
  point : Nat
  delta : Nat
  bias : Nat
  handled : Nat

/-- Writes the occurrences of the code point that is next, one after another. -/
def writePoint (basic : Nat) (position : Position) : List Nat → Position × List Char
  | [] => ({ position with delta := position.delta + 1, point := position.point + 1 }, [])
  | c :: cs =>
    if c < position.point then writePoint basic { position with delta := position.delta + 1 } cs
    else if c = position.point then
      let number := writeNumber position.bias 64 36 position.delta
      let bias := adapt position.delta (position.handled + 1) (position.handled = basic)
      let (next, rest) :=
        writePoint basic ⟨position.point, 0, bias, position.handled + 1⟩ cs
      (next, number ++ rest)
    else writePoint basic position cs

/-- Writes the code points that have not been handled yet. -/
def writePoints (basic : Nat) (label : List Nat) : (fuel : Nat) → Position → List Char
  | 0, _ => []
  | fuel + 1, position =>
    match (label.filter (position.point ≤ ·)).min? with
    | none => []
    | some next =>
      let delta := position.delta + (next - position.point) * (position.handled + 1)
      let (position, written) := writePoint basic { position with point := next, delta } label
      written ++ writePoints basic label fuel position

/-- A label in ASCII. -/
def encode (label : List Char) : List Char :=
  let basic := label.filter (·.toNat < 0x80)
  let points := label.map Char.toNat
  basic ++ (if basic.isEmpty then [] else ['-'])
    ++ writePoints basic.length points (points.length + 1) ⟨0x80, 0, 72, basic.length⟩

/-! ## §3 Reading labels -/

/-- Puts characters into a label, each where its number says. -/
def readPoints? : (fuel : Nat) → (point index bias : Nat) → (label : List Char) → List Char →
    Option (List Char)
  | _, _, _, _, label, [] => some label
  | 0, _, _, _, _, _ => none
  | fuel + 1, point, index, bias, label, s => do
    let (n, rest) ← readNumber? bias 36 1 index s
    let places := label.length + 1
    let point := point + n / places
    let here := n % places
    if !point.isValidChar then none
    else
      readPoints? fuel point (here + 1) (adapt (n - index) places (index = 0))
        (label.take here ++ Char.ofNat point :: label.drop here) rest

/-- The label that a text in ASCII writes.  Its ASCII characters end at the last hyphen, and are
some if there is a hyphen. -/
def decode? (s : List Char) : Option (List Char) :=
  let tail := (s.reverse.takeWhile (· ≠ '-')).reverse
  let front := s.take (s.length - tail.length)
  if front.length = 1 then none
  else readPoints? (s.length + 1) 0x80 0 72 front.dropLast tail

end JdkFinder.Punycode
