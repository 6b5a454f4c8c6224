import JdkFinder.Toml.Basic

/-!
# Blanks, line ends and comments of TOML
-/

namespace JdkFinder.Toml

/-- White space inside a line. -/
def isSpace (c : Char) : Bool :=
  c == ' ' || c == '\t'

/-- A character that may stand in comments and strings: any but the control characters. -/
def isPlain (c : Char) : Bool :=
  c == '\t' || (0x20 ≤ c.toNat && c.toNat != 0x7F)

/-- What follows the white space at the front. -/
def skipSpace (s : List Char) : List Char :=
  s.dropWhile isSpace

/-- What follows a line end. -/
def newline? : List Char → Option (List Char)
  | '\n' :: rest => some rest
  | '\r' :: '\n' :: rest => some rest
  | _ => none

/-- What follows the rest of a line that holds nothing but white space and a comment. -/
def lineRest? (s : List Char) : Option (List Char) :=
  let rest := match skipSpace s with
    | '#' :: comment => comment.dropWhile isPlain
    | rest => rest
  if rest.isEmpty then some [] else newline? rest

/-- What follows white space, line ends and comments. -/
def skipTrivia (inComment : Bool) : List Char → List Char
  | [] => []
  | c :: cs =>
    if inComment && isPlain c then skipTrivia true cs
    else if isSpace c || c == '\n' then skipTrivia false cs
    else if c == '#' then skipTrivia true cs
    else if c == '\r' && cs.head? == some '\n' then skipTrivia false cs
    else c :: cs

end JdkFinder.Toml
