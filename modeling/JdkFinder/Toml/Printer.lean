import JdkFinder.Text.Digit
import JdkFinder.Toml.Blank

/-!
# Writing TOML

A string is written in the first of these forms that needs no escapes: in double quotes, in single
quotes, in three double quotes, in three single quotes.  A string that needs escapes in all of them
is written with escapes, in three double quotes if it has several lines and in double quotes
otherwise.
-/

namespace JdkFinder.Toml

/-! ## §1 Strings -/

/-- The length of the longest run of a character. -/
def longestRun (c : Char) (s : List Char) : Nat :=
  go 0 0 s
where
  /-- The same, after a run of length `here` and with `best` as the longest one so far. -/
  go (here best : Nat) : List Char → Nat
    | [] => best
    | d :: ds => if d = c then go (here + 1) (max best (here + 1)) ds else go 0 best ds

/-- A character that can only be written by an escape: a control character but for tabs and line
ends. -/
def needsEscape (c : Char) : Bool :=
  !isPlain c && c != '\n'

/-- The hexadecimal digit, in upper case, of a number below 16. -/
def upperHexDigit (n : Nat) : Char :=
  if n < 10 then Char.ofNat ('0'.toNat + n) else Char.ofNat ('A'.toNat + (n - 10))

/-- The escape for a character of code point below 256. -/
def escapeSequence (c : Char) : List Char :=
  match c with
  | '\x08' => ['\\', 'b']
  | '\t' => ['\\', 't']
  | '\n' => ['\\', 'n']
  | '\x0c' => ['\\', 'f']
  | '\r' => ['\\', 'r']
  | '"' => ['\\', '"']
  | '\\' => ['\\', '\\']
  | c => ['\\', 'u', '0', '0', upperHexDigit (c.toNat / 16), upperHexDigit (c.toNat % 16)]

/-- Whether a character other than the double quote is escaped. -/
def isEscaped (multiline : Bool) (c : Char) : Bool :=
  c == '\\' || c == '\t' || (c == '\n' && !multiline) || needsEscape c

/-- The content of a string in double quotes.  Over several lines up to two quotes in a row may
stand as they are; `quotes` counts those before. -/
def escapeContent (multiline : Bool) (quotes : Nat) : List Char → List Char
  | [] => []
  | c :: cs =>
    if c = '"' then
      if multiline && quotes < 2 then c :: escapeContent multiline (quotes + 1) cs
      else escapeSequence c ++ escapeContent multiline 0 cs
    else if isEscaped multiline c then escapeSequence c ++ escapeContent multiline 0 cs
    else c :: escapeContent multiline 0 cs

/-- The line end that starts the content of a string over several lines. -/
def firstLine (s : List Char) : List Char :=
  if s.contains '\n' then ['\n'] else []

/-- A string in double quotes. -/
def basicString (s : List Char) : List Char :=
  '"' :: escapeContent false 0 s ++ ['"']

/-- A string in single quotes. -/
def literalString (s : List Char) : List Char :=
  '\'' :: s ++ ['\'']

/-- A string in three double quotes. -/
def multiBasicString (s : List Char) : List Char :=
  ['"', '"', '"'] ++ firstLine s ++ escapeContent true 0 s ++ ['"', '"', '"']

/-- A string in three single quotes. -/
def multiLiteralString (s : List Char) : List Char :=
  ['\'', '\'', '\''] ++ firstLine s ++ s ++ ['\'', '\'', '\'']

/-- A string, in the form that suits it best. -/
def writeString (s : List Char) : List Char :=
  if s.any needsEscape then
    if s.contains '\n' then multiBasicString s else basicString s
  else if !s.contains '\\' && !s.contains '"' && !s.contains '\n' then basicString s
  else if !s.contains '\'' && !s.contains '\n' then literalString s
  else if !s.contains '\\' && longestRun '"' s ≤ 2 then multiBasicString s
  else if longestRun '\'' s ≤ 2 then multiLiteralString s
  else if s.contains '\n' then multiBasicString s
  else basicString s

/-! ## §2 Values -/

/-- A truth value. -/
def writeBoolean (b : Bool) : List Char :=
  if b then "true".toList else "false".toList

/-- An array of strings: one of two or more items takes a line for each. -/
def writeStrings : List (List Char) → List Char
  | [] => ['[', ']']
  | [s] => '[' :: writeString s ++ [']']
  | items =>
    ['[', '\n'] ++ items.flatMap (fun s => "    ".toList ++ writeString s ++ [',', '\n'])
      ++ [']']

def pairLine (key : String) (value : List Char) : List Char :=
  key.toList ++ " = ".toList ++ value ++ ['\n']

/-- The header of the next table in an array, after an empty line. -/
def arrayTableHeader (key : String) : List Char :=
  '\n' :: '[' :: '[' :: key.toList ++ [']', ']', '\n']

end JdkFinder.Toml
