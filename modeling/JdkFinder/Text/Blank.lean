/-!
# White space

The Unicode property `White_Space`, and the trimming and splitting of texts by it.
-/

namespace JdkFinder.Text

/-- White space of any script. -/
def isBlank (c : Char) : Bool :=
  let n := c.toNat
  (9 ≤ n && n ≤ 13) || n == 0x20 || n == 0x85 || n == 0xA0 || n == 0x1680
    || (0x2000 ≤ n && n ≤ 0x200A) || n == 0x2028 || n == 0x2029 || n == 0x202F
    || n == 0x205F || n == 0x3000

/-- The text without the longest run of characters in `p` at its end. -/
def dropEndWhile (p : Char → Bool) (s : List Char) : List Char :=
  (s.reverse.dropWhile p).reverse

/-- The text without the runs of characters in `p` at both ends. -/
def stripWhile (p : Char → Bool) (s : List Char) : List Char :=
  dropEndWhile p (s.dropWhile p)

/-- The text without white space at both ends. -/
def trim (s : List Char) : List Char :=
  stripWhile isBlank s

/-- The maximal runs of characters that are not white space, in order. -/
def words (s : List Char) : List (List Char) :=
  (s.foldr step []).filter (!·.isEmpty)
where
  /-- Adds a character at the front: white space starts a new run, others extend the first. -/
  step (c : Char) : List (List Char) → List (List Char)
    | [] => if isBlank c then [[]] else [[c]]
    | run :: runs => if isBlank c then [] :: run :: runs else (c :: run) :: runs

end JdkFinder.Text
