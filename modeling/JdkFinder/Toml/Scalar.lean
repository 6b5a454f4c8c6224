import JdkFinder.Decimal.DoubleRange
import JdkFinder.Text.Pieces
import JdkFinder.Toml.Quoted

/-!
# Numbers, truth values and dates of TOML

A number is an integer of 64 bits, in decimal or after `0x`, `0o` or `0b`, or a float; underscores
may stand between digits.  A date, a time, or both is checked field by field.
-/

namespace JdkFinder.Toml

/-! ## §1 Runs of digits -/

/-- A run of digits in which single underscores may stand between digits; the digits alone are
kept.  `needed` says that a digit must come. -/
def digitRun? (isDigit : Char → Bool) (needed : Bool) :
    List Char → Option (List Char × List Char)
  | [] => if needed then none else some ([], [])
  | c :: cs =>
    if isDigit c then push c (digitRun? isDigit false cs)
    else if needed then none
    else if c == '_' then digitRun? isDigit true cs
    else some ([], c :: cs)

/-- The number that digits write in a base. -/
def digitsIn (base : Nat) (digits : List Char) : Nat :=
  digits.foldl (fun n c => n * base + (hexDigit? c).getD 0) 0

/-! ## §2 Integers -/

/-- An integer of 64 bits. -/
def integer64? (n : Int) : Option Value :=
  if -Int.pow 2 63 ≤ n ∧ n < Int.pow 2 63 then some (.integer n) else none

/-- A sign, if there is one, and what follows it. -/
def takeSign : List Char → Bool × List Char
  | '-' :: rest => (true, rest)
  | '+' :: rest => (false, rest)
  | rest => (false, rest)

/-- The digits of a decimal integer: a lone zero, or digits of which the first is not zero. -/
def decimalDigits? : List Char → Option (List Char × List Char)
  | '0' :: rest => some (['0'], rest)
  | s => digitRun? Char.isDigit true s

/-- An integer in another base than ten. -/
def basedInteger? (base : Nat) (isDigit : Char → Bool) (s : List Char) :
    Option (Value × List Char) := do
  let (digits, rest) ← digitRun? isDigit true s
  let value ← integer64? (digitsIn base digits)
  some (value, rest)

def isDigitBelow (base : Nat) (c : Char) : Bool :=
  (hexDigit? c).any (· < base)

/-! ## §3 Floats -/

/-- The power of ten after `e`. -/
def exponent? (s : List Char) : Option (Int × List Char) := do
  let (negative, rest) := takeSign s
  let (digits, rest) ← digitRun? Char.isDigit true rest
  let n := Nat.ofDigitChars 10 digits 0
  some (if negative then -(n : Int) else n, rest)

/-- The power of ten at the end of a float, zero if none is written. -/
def exponentPart? : List Char → Option (Int × List Char)
  | 'e' :: rest => exponent? rest
  | 'E' :: rest => exponent? rest
  | s => some (0, s)

/-- A float, unless it is too large. -/
def float? (negative : Bool) (digits : List Char) (exponent : Int) (rest : List Char) :
    Option (Value × List Char) :=
  -- Too small a negative float is read as minus infinity, which is a float.
  if !negative && Decimal.exceedsDouble (Nat.ofDigitChars 10 digits 0) exponent then none
  else some (.float, rest)

/-- A decimal integer, or a float. -/
def decimalNumber? (s : List Char) : Option (Value × List Char) := do
  let (negative, rest) := takeSign s
  let (whole, rest) ← decimalDigits? rest
  match rest with
  | '.' :: rest =>
    let (fraction, rest) ← digitRun? Char.isDigit true rest
    let (e, rest) ← exponentPart? rest
    float? negative (whole ++ fraction) (e - fraction.length) rest
  | c :: _ =>
    if c = 'e' ∨ c = 'E' then
      let (e, rest) ← exponentPart? rest
      float? negative whole e rest
    else
      let n := Nat.ofDigitChars 10 whole 0
      (integer64? (if negative then -(n : Int) else n)).map (·, rest)
  | [] =>
    let n := Nat.ofDigitChars 10 whole 0
    (integer64? (if negative then -(n : Int) else n)).map (·, rest)

/-- A float that is no number or not finite. -/
def specialFloat? (s : List Char) : Option (Value × List Char) :=
  let (_, rest) := takeSign s
  ((Text.stripPrefix? "inf".toList rest).or (Text.stripPrefix? "nan".toList rest)).map (.float, ·)

def number? (s : List Char) : Option (Value × List Char) :=
  match s with
  | '0' :: 'x' :: rest => basedInteger? 16 (isDigitBelow 16) rest
  | '0' :: 'o' :: rest => basedInteger? 8 (isDigitBelow 8) rest
  | '0' :: 'b' :: rest => basedInteger? 2 (isDigitBelow 2) rest
  | _ => (specialFloat? s).or (decimalNumber? s)

/-! ## §4 Dates and times -/

/-- A number of exactly `width` digits. -/
def fixed? (width : Nat) (s : List Char) : Option (Nat × List Char) :=
  let digits := s.take width
  if digits.length = width ∧ digits.all Char.isDigit then
    some (Nat.ofDigitChars 10 digits 0, s.drop width)
  else none

/-- A number of two digits within bounds. -/
def twoDigits? (least greatest : Nat) (s : List Char) : Option (Nat × List Char) :=
  (fixed? 2 s).filter fun (n, _) => least ≤ n && n ≤ greatest

/-- The number of days of a month. -/
def daysIn (year month : Nat) : Nat :=
  if month = 2 then
    if year % 4 = 0 ∧ (year % 100 ≠ 0 ∨ year % 400 = 0) then 29 else 28
  else if [4, 6, 9, 11].contains month then 30
  else 31

/-- What follows a character that must come. -/
def expect? (c : Char) (s : List Char) : Option (List Char) :=
  Text.stripPrefix? [c] s

/-- What follows a date. -/
def date? (s : List Char) : Option (List Char) := do
  let (year, rest) ← fixed? 4 s
  let (month, rest) ← twoDigits? 1 12 (← expect? '-' rest)
  let (day, rest) ← twoDigits? 1 31 (← expect? '-' rest)
  if day ≤ daysIn year month then some rest else none

/-- What follows the fraction of a second, if there is one. -/
def skipFraction (s : List Char) : List Char :=
  match s with
  | '.' :: c :: rest => if c.isDigit then rest.dropWhile Char.isDigit else s
  | _ => s

/-- What follows a time. -/
def time? (s : List Char) : Option (List Char) := do
  let (_, rest) ← twoDigits? 0 23 s
  let (_, rest) ← twoDigits? 0 59 (← expect? ':' rest)
  let (_, rest) ← twoDigits? 0 60 (← expect? ':' rest)
  some (skipFraction rest)

/-- What follows the offset of a time, if there is one. -/
def offset? (s : List Char) : Option (List Char) :=
  match s with
  | [] => some []
  | c :: rest =>
    if c = 'Z' ∨ c = 'z' then some rest
    else if c = '+' ∨ c = '-' then do
      let (_, rest) ← twoDigits? 0 23 rest
      let (_, rest) ← twoDigits? 0 59 (← expect? ':' rest)
      some rest
    else some s

/-- Whether the text goes on with an hour. -/
def startsWithHour (s : List Char) : Bool :=
  ((twoDigits? 0 23 s).bind fun (_, rest) => expect? ':' rest).isSome

/-- A date, a time, or both. -/
def dateTime? (s : List Char) : Option (Value × List Char) :=
  match date? s with
  | none => (time? s).map (.dateTime, ·)
  | some rest =>
    match rest with
    | c :: after =>
      -- A space may also end the value, so a time must be seen to follow it.
      if (c = 'T' ∨ c = 't' ∨ c = ' ') ∧ startsWithHour after then
        ((time? after).bind offset?).map (.dateTime, ·)
      else some (.dateTime, rest)
    | [] => some (.dateTime, [])

/-! ## §5 Scalars -/

/-- A truth value. -/
def boolean? (s : List Char) : Option (Value × List Char) :=
  ((Text.stripPrefix? "true".toList s).map (.boolean true, ·)).or
    ((Text.stripPrefix? "false".toList s).map (.boolean false, ·))

/-- A value that holds no other values. -/
def scalarValue? (s : List Char) : Option (Value × List Char) :=
  match s with
  | [] => none
  | c :: _ =>
    if c = '"' ∨ c = '\'' then (string? s).map fun (cs, rest) => (.string (String.ofList cs), rest)
    else if c = 't' ∨ c = 'f' then boolean? s
    else (dateTime? s).or (number? s)

end JdkFinder.Toml
