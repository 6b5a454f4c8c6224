import JdkFinder.Toml.Draft
import JdkFinder.Toml.Scalar

/-!
# Reading TOML

A document is read statement by statement, and the statements fill the tables.  Values may be nested
80 deep at most, the table of the document counted.
-/

namespace JdkFinder.Toml

/-! ## §1 Keys -/

/-- A character of a bare key. -/
def isKeyChar (c : Char) : Bool :=
  c.isAlphanum || c == '-' || c == '_'

/-- A key without dots. -/
def simpleKey? (s : List Char) : Option (String × List Char) :=
  match lineString? s with
  | some (key, rest) => some (String.ofList key, rest)
  | none =>
    let key := s.takeWhile isKeyChar
    if key.isEmpty then none else some (String.ofList key, s.dropWhile isKeyChar)

/-- The parts of a key, of which `fuel` bounds the number. -/
def keyParts? : (fuel : Nat) → List Char → Option (List String × List Char)
  | 0, _ => none
  | fuel + 1, s => do
    let (part, rest) ← simpleKey? (skipSpace s)
    match skipSpace rest with
    | '.' :: rest =>
      let (parts, rest) ← keyParts? fuel rest
      some (part :: parts, rest)
    | rest => some ([part], rest)

/-- How deep values may be nested, and how many parts a key may have. -/
def depthLimit : Nat := 79

def key? (s : List Char) : Option (List String × List Char) :=
  keyParts? depthLimit s

/-- A key and its value, given how values are read. -/
def pair? (value : List Char → Option (Value × List Char)) (s : List Char) :
    Option ((List String × Value) × List Char) := do
  let (key, rest) ← key? s
  let (v, rest) ← value (skipSpace (← expect? '=' rest))
  some ((key, v), rest)

/-! ## §2 Values -/

/-- The rest of an array, given how its values are read. -/
def arrayRest? (value : List Char → Option (Value × List Char)) :
    (fuel : Nat) → List Char → Option (List Value × List Char)
  | 0, _ => none
  | fuel + 1, s =>
    match skipTrivia false s with
    | ']' :: rest => some ([], rest)
    | s => do
      let (v, rest) ← value s
      match skipTrivia false rest with
      | ',' :: rest =>
        let (vs, rest) ← arrayRest? value fuel rest
        some (v :: vs, rest)
      | ']' :: rest => some ([v], rest)
      | _ => none

/-- The pairs of an inline table up to its end, given how its values are read. -/
def inlinePairs? (value : List Char → Option (Value × List Char)) :
    (fuel : Nat) → List Char → Option ((List (List String × Value)) × List Char)
  | 0, _ => none
  | fuel + 1, s => do
    let (pair, rest) ← pair? value s
    match skipSpace rest with
    -- Unlike in an array, a pair must follow the comma.
    | ',' :: rest =>
      let (pairs, rest) ← inlinePairs? value fuel rest
      some (pair :: pairs, rest)
    | '\x7d' :: rest => some ([pair], rest)
    | _ => none

/-- The rest of an inline table, given how its values are read. -/
def inlineRest? (value : List Char → Option (Value × List Char)) (s : List Char) :
    Option ((List (List String × Value)) × List Char) :=
  match skipSpace s with
  | '\x7d' :: rest => some ([], rest)
  | s => inlinePairs? value (s.length + 1) s

/-- A value in which others are nested at most `depth` deep. -/
def value? : (depth : Nat) → List Char → Option (Value × List Char)
  | 0, s =>
    match s with
    | '[' :: _ => none
    | '\x7b' :: _ => none
    | _ => scalarValue? s
  | depth + 1, s =>
    match s with
    | '[' :: rest => do
      let (items, rest) ← arrayRest? (value? depth) (rest.length + 1) rest
      some (.array items, rest)
    | '\x7b' :: rest => do
      let (pairs, rest) ← inlineRest? (value? depth) rest
      let table ← inlineTable? pairs
      some (table, rest)
    | _ => scalarValue? s

/-! ## §3 Statements -/

/-- A statement up to the end of its line. -/
def statement? : List Char → Option (Statement × List Char)
  | '[' :: '[' :: rest => do
    let (path, rest) ← key? rest
    let rest ← lineRest? (← Text.stripPrefix? [']', ']'] rest)
    some (.arrayTable path, rest)
  | '[' :: rest => do
    let (path, rest) ← key? rest
    let rest ← lineRest? (← expect? ']' rest)
    some (.table path, rest)
  | s => do
    let ((path, v), rest) ← pair? (value? depthLimit) s
    let rest ← lineRest? rest
    some (.pair path v, rest)

/-- The statements of a text. -/
def statements? : (fuel : Nat) → List Char → Option (List Statement)
  | 0, _ => none
  | fuel + 1, s =>
    match skipTrivia false s with
    | [] => some []
    | s => do
      let (statement, rest) ← statement? s
      (statements? fuel rest).map (statement :: ·)

/-! ## §4 Documents -/

/-- A text without the mark of its byte order. -/
def skipMark : List Char → List Char
  | '\uFEFF' :: rest => rest
  | s => s

/-- The fields of the document that a text is. -/
def read? (text : String) : Option (List (String × Value)) :=
  let s := skipMark text.toList
  (statements? (s.length + 1) s).bind ofStatements?

end JdkFinder.Toml
