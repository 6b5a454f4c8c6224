import JdkFinder.Json.Basic
import JdkFinder.Text.Digit
import JdkFinder.Text.Pieces

/-!
# JSON tokens

Splits a text into the tokens of strict JSON, one character at a time.

The state between two characters says whether a string or a word is being read.  A word is a
maximal run of letters, digits, signs and points: a number or one of the three names.  Two words
never stand side by side in a document, so reading them as long as possible loses nothing.
-/

namespace JdkFinder

/-! ## §1 Tokens -/

/-- A token of JSON.  A string or number that denotes no value has no content. -/
inductive JsonToken where
  | beginObject
  | endObject
  | beginArray
  | endArray
  | colon
  | comma
  | null
  | bool (b : Bool)
  | number (n : Option JsonNumber)
  | string (s : Option String)

namespace JsonToken

/-! ## §2 Words -/

/-- The number that an exponent writes: a sign, or none, and digits. -/
def exponent? : List Char → Option Int
  | '-' :: digits => (Text.digitsValue? digits).map fun n => -(n : Int)
  | '+' :: digits => (Text.digitsValue? digits).map Int.ofNat
  | digits => (Text.digitsValue? digits).map Int.ofNat

/-- Whether the digits before the point are some, without a needless zero in front. -/
def isIntegerPart (digits : List Char) : Bool :=
  match digits with
  | [] => false
  | ['0'] => true
  | c :: _ => c != '0'

/-- The number that digits, a fraction and an exponent write. -/
def unsigned? (negative : Bool) (s : List Char) : Option JsonNumber :=
  let whole := s.takeWhile Char.isDigit
  if !isIntegerPart whole then none
  else
    let rest := s.dropWhile Char.isDigit
    let fraction := match rest with
      | '.' :: r => r.takeWhile Char.isDigit
      | _ => []
    let tail := match rest with
      | '.' :: r => r.dropWhile Char.isDigit
      | r => r
    if rest.head? = some '.' ∧ fraction.isEmpty then none
    else
      let digits := Nat.ofDigitChars 10 (whole ++ fraction) 0
      match tail with
      | [] => some ⟨negative, digits, -(fraction.length : Int), rest.isEmpty⟩
      | c :: e =>
        if c = 'e' ∨ c = 'E' then
          (exponent? e).map fun e => ⟨negative, digits, e - fraction.length, false⟩
        else none

/-- The number that a word writes. -/
def number? : List Char → Option JsonNumber
  | '-' :: s => unsigned? true s
  | s => unsigned? false s

def ofWord? (word : List Char) : Option JsonToken :=
  if word = "null".toList then some .null
  else if word = "true".toList then some (.bool true)
  else if word = "false".toList then some (.bool false)
  else (number? word).map fun n => .number (if n.hasValue then some n else none)

/-- The characters of words. -/
def isWordChar (c : Char) : Bool :=
  c.isAlphanum || c == '+' || c == '-' || c == '.'

/-! ## §3 Strings

The content of a string is collected in code units, last first: a character counts with its code
point, an escape `\u` with the 16-bit unit that it writes. -/

/-- The characters that code units write.  Two halves of a surrogate pair make one character, and
a half that stands alone makes none. -/
def ofUnits? : List Nat → Option (List Char)
  | [] => some []
  | u :: units =>
    if 0xD800 ≤ u ∧ u < 0xDC00 then
      match units with
      | v :: rest =>
        if 0xDC00 ≤ v ∧ v < 0xE000 then
          (ofUnits? rest).map (Char.ofNat (0x10000 + (u - 0xD800) * 0x400 + (v - 0xDC00)) :: ·)
        else none
      | [] => none
    else if 0xDC00 ≤ u ∧ u < 0xE000 then none
    else (ofUnits? units).map (Char.ofNat u :: ·)

/-- The value of a hexadecimal digit. -/
def hexValue? (c : Char) : Option Nat :=
  if '0' ≤ c ∧ c ≤ '9' then some (c.toNat - '0'.toNat)
  else if 'a' ≤ c ∧ c ≤ 'f' then some (c.toNat - 'a'.toNat + 10)
  else if 'A' ≤ c ∧ c ≤ 'F' then some (c.toNat - 'A'.toNat + 10)
  else none

/-- The code unit of a one-letter escape. -/
def escapedUnit? : Char → Option Nat
  | '"' => some 0x22
  | '\\' => some 0x5C
  | '/' => some 0x2F
  | 'b' => some 0x08
  | 'f' => some 0x0C
  | 'n' => some 0x0A
  | 'r' => some 0x0D
  | 't' => some 0x09
  | _ => none

/-! ## §4 The tokens of a text -/

/-- What is being read between two characters. -/
inductive LexState where
  /-- Nothing: a new token may start. -/
  | between
  /-- A word, last character first. -/
  | word (chars : List Char)
  /-- A string, last unit first. -/
  | string (units : List Nat)
  /-- A string, after a backslash. -/
  | escape (units : List Nat)
  /-- A string, inside a `\u` escape with this many digits to come. -/
  | hex (units : List Nat) (missing : Nat) (value : Nat)

/-- The token of a single punctuation character. -/
def punctuation? : Char → Option JsonToken
  | '\x7b' => some .beginObject
  | '\x7d' => some .endObject
  | '[' => some .beginArray
  | ']' => some .endArray
  | ':' => some .colon
  | ',' => some .comma
  | _ => none

/-- White space of JSON. -/
def isSpace (c : Char) : Bool :=
  c == ' ' || c == '\t' || c == '\n' || c == '\r'

/-- The start of a token: the state and the tokens that one character leads to. -/
def start? (c : Char) : Option (LexState × List JsonToken) :=
  if isSpace c then some (.between, [])
  else if c = '"' then some (.string [], [])
  else if isWordChar c then some (.word [c], [])
  else (punctuation? c).map fun token => (.between, [token])

/-- One character further: the next state, and the tokens that are complete. -/
def step? : LexState → Char → Option (LexState × List JsonToken)
  | .between, c => start? c
  | .word chars, c =>
    if isWordChar c then some (.word (c :: chars), [])
    else
      -- The character that ends a word starts the next token.
      match ofWord? chars.reverse, start? c with
      | some token, some (state, tokens) => some (state, token :: tokens)
      | _, _ => none
  | .string units, c =>
    if c = '"' then
      some (.between, [.string ((ofUnits? units.reverse).map String.ofList)])
    else if c = '\\' then some (.escape units, [])
    -- Control characters must be escaped.
    else if c.toNat < 0x20 then none
    else some (.string (c.toNat :: units), [])
  | .escape units, c =>
    if c = 'u' then some (.hex units 4 0, [])
    else (escapedUnit? c).map fun u => (.string (u :: units), [])
  | .hex units missing value, c =>
    (hexValue? c).map fun d =>
      if missing ≤ 1 then (.string ((value * 16 + d) :: units), [])
      else (.hex units (missing - 1) (value * 16 + d), [])

/-- The tokens at the end of a text: an open word is complete, an open string is not. -/
def finish? : LexState → Option (List JsonToken)
  | .between => some []
  | .word chars => (ofWord? chars.reverse).map ([·])
  | _ => none

/-- The tokens of the rest of a text. -/
def lexFrom (state : LexState) : List Char → Option (List JsonToken)
  | [] => finish? state
  | c :: cs =>
    match step? state c with
    | none => none
    | some (next, tokens) => (lexFrom next cs).map (tokens ++ ·)

/-- The tokens of a text. -/
def lex (s : List Char) : Option (List JsonToken) :=
  lexFrom .between s

end JsonToken

end JdkFinder
