import JdkFinder.Decimal.Shortest
import JdkFinder.Json.Basic
import JdkFinder.Text.Digit

/-!
# Writing JSON

Two layouts of one document: the compact one without any space, and the pretty one with each item
and member on a line of its own, indented by two spaces per level.  Characters outside ASCII are
written as they are.
-/

namespace JdkFinder.Json

/-! ## §1 Strings -/

/-- The hexadecimal digit of a number below 16. -/
def hexDigit (n : Nat) : Char :=
  if n < 10 then Char.ofNat ('0'.toNat + n) else Char.ofNat ('a'.toNat + (n - 10))

/-- A character inside a string: quotes, backslashes and control characters are escaped. -/
def escapeChar (c : Char) : List Char :=
  match c with
  | '"' => ['\\', '"']
  | '\\' => ['\\', '\\']
  | '\n' => ['\\', 'n']
  | '\r' => ['\\', 'r']
  | '\t' => ['\\', 't']
  | c =>
    if c.toNat = 0x08 then ['\\', 'b']
    else if c.toNat = 0x0C then ['\\', 'f']
    else if c.toNat < 0x20 then
      ['\\', 'u', '0', '0', hexDigit (c.toNat / 16), hexDigit (c.toNat % 16)]
    else [c]

/-- A string in quotes. -/
def quote (s : String) : List Char :=
  '"' :: s.toList.flatMap escapeChar ++ ['"']

/-! ## §2 Numbers -/

/-- The shortest decimal of a number of double precision, with a point or a power of ten in any
case.  From `10 ^ -5` up to `10 ^ 16` it is written without a power of ten. -/
def writeDouble (d : Double) : List Char :=
  if d.mantissa = 0 then "0.0".toList
  else
    let (digits, power) := d.shortest
    let digits := Text.decimal digits
    let point := digits.length + power
    if 0 ≤ power ∧ point ≤ 16 then
      digits ++ List.replicate power.toNat '0' ++ ['.', '0']
    else if 0 < point ∧ point ≤ 16 then
      digits.take point.toNat ++ '.' :: digits.drop point.toNat
    else if -5 < point ∧ point ≤ 0 then
      ['0', '.'] ++ List.replicate (-point).toNat '0' ++ digits
    else
      digits.take 1 ++ (if digits.length = 1 then [] else '.' :: digits.drop 1)
        ++ (if point < 1 then ['e', '-'] else ['e']) ++ Text.decimal (point - 1).natAbs

def writeNumber (n : JsonNumber) : List Char :=
  (if n.negative then ['-'] else [])
    ++ (if n.isWhole then Text.decimal n.digits
        else (n.toDouble?.map writeDouble).getD (Text.decimal n.digits))

/-! ## §3 The compact layout -/

mutual

/-- A document without any space. -/
def compact : Json → List Char
  | .null => "null".toList
  | .bool true => "true".toList
  | .bool false => "false".toList
  | .number n => writeNumber n
  | .string s => quote s
  | .array items => '[' :: compactItems items ++ [']']
  | .object fields => '\x7b' :: compactFields fields ++ ['\x7d']
  | .unreadable => "null".toList

/-- The items of an array, with commas between them. -/
def compactItems : List Json → List Char
  | [] => []
  | [j] => compact j
  | j :: rest => compact j ++ ',' :: compactItems rest

/-- The members of an object, with commas between them. -/
def compactFields : List (String × Json) → List Char
  | [] => []
  | [(key, j)] => quote key ++ ':' :: compact j
  | (key, j) :: rest => quote key ++ ':' :: compact j ++ ',' :: compactFields rest

end

/-! ## §4 The pretty layout -/

/-- A line break and the indentation of a level. -/
def newline (level : Nat) : List Char :=
  '\n' :: List.replicate (2 * level) ' '

mutual

/-- A document whose first line stands at a level of indentation. -/
def prettyAt (level : Nat) : Json → List Char
  | .null => "null".toList
  | .bool true => "true".toList
  | .bool false => "false".toList
  | .number n => writeNumber n
  | .string s => quote s
  | .array [] => ['[', ']']
  | .array (j :: rest) =>
    '[' :: newline (level + 1) ++ prettyAt (level + 1) j ++ prettyItems (level + 1) rest
      ++ newline level ++ [']']
  | .object [] => ['\x7b', '\x7d']
  | .object ((key, j) :: rest) =>
    '\x7b' :: newline (level + 1) ++ quote key ++ ':' :: ' ' :: prettyAt (level + 1) j
      ++ prettyFields (level + 1) rest ++ newline level ++ ['\x7d']
  | .unreadable => "null".toList

/-- The items after the first, each after a comma and on a line of its own. -/
def prettyItems (level : Nat) : List Json → List Char
  | [] => []
  | j :: rest => ',' :: newline level ++ prettyAt level j ++ prettyItems level rest

/-- The members after the first, each after a comma and on a line of its own. -/
def prettyFields (level : Nat) : List (String × Json) → List Char
  | [] => []
  | (key, j) :: rest =>
    ',' :: newline level ++ quote key ++ ':' :: ' ' :: prettyAt level j
      ++ prettyFields level rest

end

/-- A document in the pretty layout. -/
def pretty (j : Json) : List Char :=
  prettyAt 0 j

end JdkFinder.Json
