import JdkFinder.Toml.Blank

/-!
# Strings of TOML

Strings stand in double quotes, where a backslash starts an escape, or in single quotes, where
every character stands for itself.  Three quotes start a string that may go over several lines; a
line end right after them does not count.
-/

namespace JdkFinder.Toml

/-! ## §1 Escapes -/

/-- The value of a hexadecimal digit. -/
def hexDigit? (c : Char) : Option Nat :=
  if '0' ≤ c ∧ c ≤ '9' then some (c.toNat - '0'.toNat)
  else if 'a' ≤ c ∧ c ≤ 'f' then some (c.toNat - 'a'.toNat + 10)
  else if 'A' ≤ c ∧ c ≤ 'F' then some (c.toNat - 'A'.toNat + 10)
  else none

/-- The character of a one-letter escape. -/
def escaped? : Char → Option Char
  | 'b' => some '\x08'
  | 't' => some '\t'
  | 'n' => some '\n'
  | 'f' => some '\x0c'
  | 'r' => some '\r'
  | '"' => some '"'
  | '\\' => some '\\'
  | _ => none

/-- The character with a code point. -/
def scalar? (n : Nat) : Option Char :=
  if n.isValidChar then some (Char.ofNat n) else none

/-- Where the reader of a string in double quotes stands. -/
inductive Mode where
  | plain
  /-- After a backslash. -/
  | escape
  /-- In an escape by code point, with this many digits to come. -/
  | hex (missing value : Nat)
  /-- After a backslash and white space: the line must end. -/
  | lineEnd
  /-- After a backslash at the end of a line: white space and line ends do not count. -/
  | trimming
  deriving DecidableEq

/-- A character after a backslash: the character that the escape stands for, or the next mode. -/
def afterBackslash? (c : Char) : Option (Char ⊕ Mode) :=
  if c = 'u' then some (.inr (.hex 4 0))
  else if c = 'U' then some (.inr (.hex 8 0))
  else (escaped? c).map .inl

/-- A digit of an escape by code point: the character that it completes, or the next mode. -/
def hexStep? (missing value : Nat) (c : Char) : Option (Char ⊕ Mode) := do
  let value := value * 16 + (← hexDigit? c)
  if missing ≤ 1 then (scalar? value).map .inl else some (.inr (.hex (missing - 1) value))

/-- A character in front of what is read after it. -/
def push (c : Char) : Option (List Char × List Char) → Option (List Char × List Char)
  | some (cs, rest) => some (c :: cs, rest)
  | none => none

/-! ## §2 Strings on one line -/

/-- The rest of a string in double quotes. -/
def basicRest : Mode → List Char → Option (List Char × List Char)
  | _, [] => none
  | .escape, c :: cs =>
    match afterBackslash? c with
    | some (.inl e) => push e (basicRest .plain cs)
    | some (.inr mode) => basicRest mode cs
    | none => none
  | .hex missing value, c :: cs =>
    match hexStep? missing value c with
    | some (.inl e) => push e (basicRest .plain cs)
    | some (.inr mode) => basicRest mode cs
    | none => none
  | _, c :: cs =>
    if c = '"' then some ([], cs)
    else if c = '\\' then basicRest .escape cs
    else if isPlain c then push c (basicRest .plain cs)
    else none

/-- The rest of a string in single quotes. -/
def literalRest : List Char → Option (List Char × List Char)
  | [] => none
  | c :: cs =>
    if c = '\'' then some ([], cs) else if isPlain c then push c (literalRest cs) else none

/-! ## §3 Strings over several lines -/

/-- The end of such a string: three quotes, before which up to two more belong to it. -/
def closing? (quote : Char) (s : List Char) : Option (List Char × List Char) :=
  let run := (s.takeWhile (· = quote)).length
  if run < 3 then none
  else some (List.replicate (min (run - 3) 2) quote, s.drop (min (run - 3) 2 + 3))

/-- A line end inside a string may be written with a carriage return. -/
def isReturnBefore (c : Char) (rest : List Char) : Bool :=
  c == '\r' && rest.head? == some '\n'

/-- The rest of a string in three double quotes. -/
def multiBasicRest : Mode → List Char → Option (List Char × List Char)
  | _, [] => none
  | .escape, c :: cs =>
    if isSpace c || isReturnBefore c cs then multiBasicRest .lineEnd cs
    else if c = '\n' then multiBasicRest .trimming cs
    else
      match afterBackslash? c with
      | some (.inl e) => push e (multiBasicRest .plain cs)
      | some (.inr mode) => multiBasicRest mode cs
      | none => none
  | .hex missing value, c :: cs =>
    match hexStep? missing value c with
    | some (.inl e) => push e (multiBasicRest .plain cs)
    | some (.inr mode) => multiBasicRest mode cs
    | none => none
  | .lineEnd, c :: cs =>
    if isSpace c || isReturnBefore c cs then multiBasicRest .lineEnd cs
    else if c = '\n' then multiBasicRest .trimming cs
    else none
  | mode, c :: cs =>
    if mode = .trimming ∧ (isSpace c || c == '\n' || isReturnBefore c cs) then
      multiBasicRest .trimming cs
    else if c = '"' then
      match closing? '"' (c :: cs) with
      | some (quotes, rest) => some (quotes, rest)
      | none => push '"' (multiBasicRest .plain cs)
    else if c = '\\' then multiBasicRest .escape cs
    else if isReturnBefore c cs then multiBasicRest .plain cs
    else if c = '\n' || isPlain c then push c (multiBasicRest .plain cs)
    else none

/-- The rest of a string in three single quotes. -/
def multiLiteralRest : List Char → Option (List Char × List Char)
  | [] => none
  | c :: cs =>
    if c = '\'' then
      match closing? '\'' (c :: cs) with
      | some (quotes, rest) => some (quotes, rest)
      | none => push '\'' (multiLiteralRest cs)
    else if isReturnBefore c cs then multiLiteralRest cs
    else if c = '\n' || isPlain c then push c (multiLiteralRest cs)
    else none

/-! ## §4 Strings -/

/-- A string without the line end at its front. -/
def skipFirstLine (s : List Char) : List Char :=
  (newline? s).getD s

def lineString? : List Char → Option (List Char × List Char)
  | '"' :: rest => basicRest .plain rest
  | '\'' :: rest => literalRest rest
  | _ => none

/-- A string of any form. -/
def string? : List Char → Option (List Char × List Char)
  | '"' :: '"' :: '"' :: rest => multiBasicRest .plain (skipFirstLine rest)
  | '\'' :: '\'' :: '\'' :: rest => multiLiteralRest (skipFirstLine rest)
  | s => lineString? s

end JdkFinder.Toml
