import JdkFinder.Text.Blocks
import JdkFinder.Text.CompositeTable
import JdkFinder.Text.MarkTable

/-!
# Composition

A letter with marks can be written as one character, or as several; and marks that do not touch
each other can be written in any order.  The composed form of a text is the same for all these
ways: composites are taken apart, the marks after a letter are put into the order of their classes,
and letters are joined with the marks after them where a composite exists.

The composites known here are those that may stand in a domain name.
-/

namespace JdkFinder.Text

/-! ## §1 Composites -/

/-- The characters of a text, two by two. -/
def inPairs : List Char → List (Char × Char)
  | first :: second :: rest => (first, second) :: inPairs rest
  | _ => []

/-- All composites but Hangul syllables: the first part, the second part, and the composite. -/
def compositions : List (Char × Char × Char) :=
  composites.flatMap fun (second, text) =>
    (inPairs text.toList).map fun (first, composite) => (first, Char.ofNat second, composite)

/-- The parts of a Hangul syllable: its last consonant is split off, else its vowel. -/
def hangulParts? (n : Nat) : Option (Char × Char) :=
  if 0xAC00 ≤ n ∧ n ≤ 0xD7A3 then
    let index := n - 0xAC00
    if index % 28 = 0 then
      some (Char.ofNat (0x1100 + index / 588), Char.ofNat (0x1161 + index % 588 / 28))
    else some (Char.ofNat (n - index % 28), Char.ofNat (0x11A7 + index % 28))
  else none

/-- The Hangul syllable of two parts. -/
def hangulSyllable? (first second : Nat) : Option Char :=
  if 0x1100 ≤ first ∧ first ≤ 0x1112 ∧ 0x1161 ≤ second ∧ second ≤ 0x1175 then
    some (Char.ofNat (0xAC00 + ((first - 0x1100) * 21 + (second - 0x1161)) * 28))
  else if 0xAC00 ≤ first ∧ first ≤ 0xD7A3 ∧ (first - 0xAC00) % 28 = 0
      ∧ 0x11A7 < second ∧ second ≤ 0x11C2 then
    some (Char.ofNat (first + (second - 0x11A7)))
  else none

/-- The two parts of a composite. -/
def parts? (c : Char) : Option (Char × Char) :=
  if c.toNat < 0x80 then none
  else
    (hangulParts? c.toNat).or
      ((compositions.find? fun (_, _, composite) => composite == c).map fun (first, second, _) =>
        (first, second))

/-- The composite of two characters. -/
def composite? (first second : Char) : Option Char :=
  if second.toNat < 0x80 then none
  else
    (hangulSyllable? first.toNat second.toNat).or
      ((compositions.find? fun (a, b, _) => a == first && b == second).map fun (_, _, c) => c)

/-- The parts of a character, where its first part is taken apart too, `depth` times in all. -/
def decompose : (depth : Nat) → Char → List Char
  | 0, c => [c]
  | depth + 1, c =>
    match parts? c with
    | none => [c]
    | some (first, second) => decompose depth first ++ [second]

/-! ## §2 The order of marks -/

/-- The class of a mark, zero for other characters and for marks that keep their place. -/
def combiningClass (c : Char) : Nat :=
  if c.toNat < 0x300 then 0
  else
    match combiningClasses.find? fun (_, blocks) => inBlocks blocks c with
    | some (k, _) => k
    | none => 0

/-- A virama, which takes away the vowel of the letter before it. -/
def isVirama (c : Char) : Bool :=
  combiningClass c == 9

/-- Puts a character with its class before others that are in order: a mark goes after the marks of
lower classes. -/
def insertMark (m : Char × Nat) : List (Char × Nat) → List (Char × Nat)
  | [] => [m]
  | d :: ds => if 0 < d.2 ∧ d.2 < m.2 then d :: insertMark m ds else m :: d :: ds

/-- Characters with their classes, the marks in order. -/
def arrange (s : List (Char × Nat)) : List (Char × Nat) :=
  s.foldr insertMark []

/-! ## §3 Composed forms -/

/-- Joins a character with what follows, where the marks given last first stand between the two. -/
def composeAfter (letter : Char) (marks : List (Char × Nat)) : List (Char × Nat) → List Char
  | [] => letter :: marks.reverse.map Prod.fst
  | (c, k) :: rest =>
    -- A mark of the same class or a higher one keeps the two apart.
    let joined := if marks.head?.any (k ≤ ·.2) then none else composite? letter c
    match joined with
    | some composite => composeAfter composite marks rest
    | none =>
      if k = 0 then letter :: marks.reverse.map Prod.fst ++ composeAfter c [] rest
      else composeAfter letter ((c, k) :: marks) rest

/-- Joins letters with the marks after them; marks at the front stay alone. -/
def compose : List (Char × Nat) → List Char
  | [] => []
  | (c, k) :: rest => if k = 0 then composeAfter c [] rest else c :: compose rest

/-- The composed form of a text. -/
def composedForm (s : List Char) : List Char :=
  if isAscii s then s
  else compose (arrange ((s.flatMap (decompose 2)).map fun c => (c, combiningClass c)))

end JdkFinder.Text
