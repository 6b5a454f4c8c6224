/-!
# UTF-8

Reading bytes that should be UTF-8 but need not be.  Where the bytes stop being UTF-8, the bytes of
the character that was begun are replaced together by one replacement character, and reading goes
on with the byte that did not fit.
-/

namespace JdkFinder.Utf8

/-- The character that stands for bytes that are not UTF-8. -/
def replacement : Char :=
  '\uFFFD'

/-- Where the reader stands between two bytes. -/
inductive State where
  /-- Between characters. -/
  | start
  /-- Inside a character: the bits so far, the bytes to come, and the bounds of the next byte. -/
  | inside (value missing least greatest : Nat)
  deriving DecidableEq, Repr

/-- A byte between characters: the characters it completes, and the state after it. -/
def first (b : Nat) : List Char × State :=
  if b < 0x80 then ([Char.ofNat b], .start)
  else if b < 0xC2 then ([replacement], .start)
  else if b < 0xE0 then ([], .inside (b - 0xC0) 1 0x80 0xBF)
  else if b < 0xF0 then
    ([], .inside (b - 0xE0) 2 (if b = 0xE0 then 0xA0 else 0x80) (if b = 0xED then 0x9F else 0xBF))
  else if b < 0xF5 then
    ([], .inside (b - 0xF0) 3 (if b = 0xF0 then 0x90 else 0x80) (if b = 0xF4 then 0x8F else 0xBF))
  else ([replacement], .start)

/-- One byte: the characters it completes, and the state after it. -/
def step : State → Nat → List Char × State
  | .start, b => first b
  | .inside value missing least greatest, b =>
    if least ≤ b ∧ b ≤ greatest then
      let value := value * 0x40 + (b - 0x80)
      if missing ≤ 1 then ([Char.ofNat value], .start)
      else ([], .inside value (missing - 1) 0x80 0xBF)
    else
      let (chars, state) := first b
      (replacement :: chars, state)

/-- The characters of the rest of the bytes. -/
def readFrom : State → List UInt8 → List Char
  | .start, [] => []
  | .inside .., [] => [replacement]
  | state, b :: bytes =>
    let (chars, next) := step state b.toNat
    chars ++ readFrom next bytes

/-- The characters of bytes, with replacements where they are not UTF-8. -/
def readLossy (bytes : ByteArray) : List Char :=
  readFrom .start bytes.toList

end JdkFinder.Utf8
