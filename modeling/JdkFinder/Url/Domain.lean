import JdkFinder.Text.Composition
import JdkFinder.Text.Direction
import JdkFinder.Text.Joining
import JdkFinder.Text.Lowercase
import JdkFinder.Text.Pieces
import JdkFinder.Url.DomainTable
import JdkFinder.Url.Punycode

/-!
# Domain names

A domain name is a list of labels with points in between.  What a user writes is first made
uniform: capitals, wide letters and the like are replaced by what they stand for, and the text is
composed.  A label of other characters than those of ASCII is then written in ASCII, after the sign
`xn--`; a label that is given so must be the very one that writing would produce.

A label may not start with a mark.  The two signs without a width that join letters or keep them
apart may stand only where they make a difference.  If one label is written from right to left,
each label must be such that its characters keep their order next to the others.
-/

namespace JdkFinder.Domain

/-! ## §1 Characters -/

/-- The characters of ASCII that may not stand in domain names. -/
def isForbidden (c : Char) : Bool :=
  c.toNat ≤ 0x20 || c.toNat == 0x7F || "%#/:<>?@[\\]^|".toList.contains c

/-- The rows of characters that stand for texts, with the texts apart. -/
def spellings : List (Nat × List (List Char)) :=
  spelledOut.map fun (first, texts) => (first, texts.toList.splitOn ' ')

/-- The text that a character stands for, if the rows list it. -/
def spelling? (n : Nat) : Option (List Char) :=
  spellings.findSome? fun (first, texts) => if first ≤ n then texts[n - first]? else none

/-- What a character stands for in a domain name, if it may be used at all. -/
def meaning? (c : Char) : Option (List Char) :=
  let n := c.toNat
  if n < 0x80 then some [c.toLower]
  else if Text.inBlocks ignoredBlocks c then some []
  else if Text.inBlocks unusableBlocks c then none
  else
    match (spelling? n).or ((Text.shiftedIn? n shiftedRuns).map fun m => [Char.ofNat m]) with
    | some text => some text
    | none => some (Text.lowercaseChar c)

/-- Whether a character stands for itself inside a label. -/
def isPlain (c : Char) : Bool :=
  meaning? c == some [c] && !isForbidden c && c != '.'

/-! ## §2 Labels -/

/-- A label of a domain name. -/
structure Label where
  /-- The characters that the label is read as. -/
  chars : List Char
  /-- How the label is written in ASCII. -/
  ascii : List Char
  deriving DecidableEq, Repr

/-- How many characters after the sign of a label in ASCII are read. -/
def maxEncoded : Nat := 2000

/-- How many characters a label may have that is not ASCII. -/
def maxDecoded : Nat := 1000

/-- What stands at the front of a label that is written in ASCII though it means other
characters. -/
def sign : List Char := "xn--".toList

/-- The characters that are meant by what follows the sign.  They must not be ASCII alone, and must
be just as they are written after all replacements. -/
def readEncoded? (code : List Char) : Option (List Char) :=
  if !Text.isAscii code ∨ maxEncoded < code.length ∨ code.getLast?.all (· == '-') then none
  else
    (Punycode.decode? code).filter fun chars =>
      chars.all isPlain && Text.composedForm chars == chars

/-- The label that a text writes, all replacements done. -/
def label? (s : List Char) : Option Label :=
  match Text.stripPrefix? sign s with
  | some code => (readEncoded? code).map (⟨·, s⟩)
  | none =>
    if s.any isForbidden then none
    else some ⟨s, if Text.isAscii s then s else sign ++ Punycode.encode s⟩

/-! ## §3 Joiners -/

/-- The sign that keeps two letters apart. -/
def nonJoiner : Char := '\u200C'

/-- The sign that joins two letters. -/
def joiner : Char := '\u200D'

/-- Whether the next letter, marks skipped, is of a kind. -/
def meets (kind : Char → Bool) (s : List Char) : Bool :=
  (s.dropWhile Text.isTransparent).head?.any kind

/-- Whether a character may stand between others; those before it are given last first.  Both signs
may stand after a virama, and letters may be kept apart that would join. -/
def fitsBetween (before : List Char) (c : Char) (after : List Char) : Bool :=
  if c = nonJoiner then
    before.head?.any Text.isVirama
      || (meets Text.joinsNext before && meets Text.joinsPrevious after)
  else if c = joiner then before.head?.any Text.isVirama
  else true

/-- Whether all characters may stand where they do. -/
def joinersFit (before : List Char) : List Char → Bool
  | [] => true
  | c :: after => fitsBetween before c after && joinersFit (c :: before) after

/-! ## §4 Labels next to each other -/

/-- Whether the directions of the characters of a label keep them in order next to other labels.
Marks at the end do not count. -/
def keepsOrder : List Text.Direction → Bool
  | [] => true
  | first :: rest =>
    let rest := (rest.reverse.dropWhile (· = .nonspacing)).reverse
    match first with
    | .leftToRight =>
      !rest.any Text.Direction.isRightToLeft
        && rest.getLast?.all fun d => d = .leftToRight || d = .europeanNumber
    | .rightToLeft =>
      !rest.contains .leftToRight
        && !(rest.contains .europeanNumber && rest.contains .arabicNumber)
        && rest.getLast?.all fun d => d = .europeanNumber || d.isRightToLeft
    | _ => false

namespace Label

/-- The directions of the characters of a label. -/
def directions (label : Label) : List Text.Direction :=
  label.chars.map Text.directionOf

/-- Whether a label may stand in a domain name. -/
def isValid (label : Label) : Bool :=
  !label.chars.head?.any (Text.inBlocks Text.markBlocks)
    && joinersFit [] label.chars
    && (Text.isAscii label.chars || label.chars.length ≤ maxDecoded)

end Label

/-- Whether labels may stand next to each other. -/
def fitTogether (labels : List Label) : Bool :=
  !labels.any (·.directions.any Text.Direction.isRightToLeft)
    || labels.all fun label => keepsOrder label.directions

/-! ## §5 Names -/

/-- The labels of a domain name that a user writes. -/
def labels? (s : List Char) : Option (List Label) := do
  let name := Text.composedForm (← s.mapM meaning?).flatten
  let labels ← (name.splitOn '.').mapM label?
  if labels.all Label.isValid && fitTogether labels then some labels else none

/-- The domain name that a user writes, in ASCII. -/
def ascii? (s : List Char) : Option (List Char) :=
  (labels? s).map fun labels => ['.'].intercalate (labels.map Label.ascii)

end JdkFinder.Domain
