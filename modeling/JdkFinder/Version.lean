import JdkFinder.Text.Blank
import JdkFinder.Text.Digit
import JdkFinder.Text.Pieces

/-!
# Java versions

A version has a feature release, three further numbers, a build number and an early-access mark.
This module holds the type, its order and sorting by it, the grammar by which a version is found
inside a free text, and the text in which a version is written.

## Reading

The reading starts at the leftmost decimal digit of the text and takes, each as long as possible:
the run `digits ('.' digits)*`; an underscore with digits; the mark `-ea` or `-internal`; and a
build number after `+` or `-b`.  What follows is ignored.

## Two numberings

Up to release 8 the feature release is the second number of `1.8.0_292`, and the update stands
after the underscore.  From release 9 on it is the first number of `17.0.2`.
-/

namespace JdkFinder

/-! ## §1 Versions and their order -/

/-- A Java version. -/
structure Version where
  feature : UInt32
  interim : UInt32
  update : UInt32
  patch : UInt32
  build : UInt32
  early : Bool
  deriving DecidableEq, Repr

namespace Version

/-- The first version of a feature release. -/
def ofFeature (feature : UInt32) : Version :=
  ⟨feature, 0, 0, 0, 0, false⟩

/-- The numbers that a version prefix can fix, most significant first. -/
def numbers (v : Version) : List UInt32 :=
  [v.feature, v.interim, v.update, v.patch]

/-- Whether two versions agree on their first `segments` numbers. -/
def agreesOn (segments : Nat) (v w : Version) : Bool :=
  v.numbers.take segments == w.numbers.take segments

/-- Versions are ordered by their numbers, then by build; of two that agree in all of these, the
early-access one comes first. -/
def compare (v w : Version) : Ordering :=
  (Ord.compare v.feature w.feature).then <|
  (Ord.compare v.interim w.interim).then <|
  (Ord.compare v.update w.update).then <|
  (Ord.compare v.patch w.patch).then <|
  (Ord.compare v.build w.build).then <|
  Ord.compare w.early v.early

instance : Ord Version := ⟨Version.compare⟩

/-- The comparison for callers who must be told whether there is an order at all: of versions there
always is. -/
def partialCompare? (v w : Version) : Option Ordering :=
  some (compare v w)

instance : LT Version := ⟨fun v w => (partialCompare? v w).any Ordering.isLT⟩

instance : LE Version := ⟨fun v w => (partialCompare? v w).any Ordering.isLE⟩

instance : DecidableLT Version := fun v w =>
  inferInstanceAs (Decidable ((partialCompare? v w).any Ordering.isLT = true))

instance : DecidableLE Version := fun v w =>
  inferInstanceAs (Decidable ((partialCompare? v w).any Ordering.isLE = true))

/-- The elements of a list by their versions, the least first.  Elements of one version stay in the
order that they are in. -/
def sortBy {α : Type} (version : α → Version) (list : List α) : List α :=
  list.mergeSort fun a b => version a ≤ version b

/-- The feature releases with long-term support. -/
def longTermReleases : List UInt32 :=
  [8, 11, 17, 21, 25]

/-- Whether the version belongs to a release with long-term support. -/
def isLongTerm (v : Version) : Bool :=
  longTermReleases.contains v.feature

/-! ## §2 The parts of a written version -/

/-- The parts of a version as they are written: runs of digits, not yet numbers. -/
structure Reading where
  /-- The digits between the dots. -/
  components : List (List Char)
  /-- The digits after the underscore. -/
  underscore : Option (List Char)
  /-- Whether an early-access mark was written. -/
  early : Bool
  /-- The digits after the build sign. -/
  build : Option (List Char)
  deriving DecidableEq, Repr

/-- Whether a text starts with a decimal digit. -/
def startsWithDigit : List Char → Bool
  | [] => false
  | c :: _ => Text.isDigit c

/-- Splits off the longest run of digits and of dots that a digit follows. -/
def takeRun : List Char → List Char × List Char
  | [] => ([], [])
  | c :: cs =>
    if Text.isDigit c || (c == '.' && startsWithDigit cs) then
      let (run, rest) := takeRun cs
      (c :: run, rest)
    else ([], c :: cs)

/-- Splits off a sign together with the digits that must follow it. -/
def takeSigned? (sign s : List Char) : Option (List Char × List Char) :=
  match Text.stripPrefix? sign s with
  | none => none
  | some rest =>
    if startsWithDigit rest then
      some (rest.takeWhile Text.isDigit, rest.dropWhile Text.isDigit)
    else none

/-- Splits off the underscore and its digits, if they are there. -/
def takeUnderscore (s : List Char) : Option (List Char) × List Char :=
  match takeSigned? ['_'] s with
  | some (digits, rest) => (some digits, rest)
  | none => (none, s)

/-- Splits off an early-access mark, if there is one. -/
def takeEarly (s : List Char) : Bool × List Char :=
  match Text.stripPrefix? "-ea".toList s with
  | some rest => (true, rest)
  | none =>
    match Text.stripPrefix? "-internal".toList s with
    | some rest => (true, rest)
    | none => (false, s)

/-- The digits of the build number, if one is written. -/
def takeBuild (s : List Char) : Option (List Char) :=
  ((takeSigned? ['+'] s).or (takeSigned? ['-', 'b'] s)).map Prod.fst

/-- The parts of the version that a text which starts with a digit writes. -/
def readHere (s : List Char) : Reading :=
  let (run, rest) := takeRun s
  let (underscore, rest) := takeUnderscore rest
  let (early, rest) := takeEarly rest
  ⟨run.splitOn '.', underscore, early, takeBuild rest⟩

/-- The parts of the version at the leftmost decimal digit of a text. -/
def read? (s : List Char) : Option Reading :=
  match s.dropWhile (!Text.isDigit ·) with
  | [] => none
  | c :: cs => some (readHere (c :: cs))

/-! ## §3 From the parts to a version -/

/-- The number of an optional part: absent parts have no number, but present ones must have one. -/
def optionalWord? : Option (List Char) → Option (Option UInt32)
  | none => some none
  | some digits => (Text.word32? digits).map some

/-- Places the numbers of a written version.  When the first of two or more components is 1, the
second is the feature release and the update is the number after the underscore or the fourth
component; otherwise the components are feature, interim, update and patch in this order. -/
def ofNumbers (components : List UInt32) (underscore build : Option UInt32) (early : Bool) :
    Version :=
  match components with
  | first :: second :: rest =>
    if first = 1 then
      -- The old numbering: the third number says nothing, and there is no patch.
      ⟨second, 0, underscore.getD (rest[1]?.getD 0), 0, build.getD 0, early⟩
    else
      ⟨first, second, (rest[0]?.or underscore).getD 0, rest[1]?.getD 0, build.getD 0, early⟩
  | [first] => ⟨first, 0, underscore.getD 0, 0, build.getD 0, early⟩
  | [] => ⟨0, 0, underscore.getD 0, 0, build.getD 0, early⟩

/-- Feature releases run from 1 to 99; larger numbers stand for something else, such as a year. -/
def isFeature (n : UInt32) : Bool :=
  1 ≤ n && n ≤ 99

/-- The version that the parts write, if every part is a 32-bit number and the feature release is
in range. -/
def Reading.toVersion? (r : Reading) : Option Version :=
  match r.components.mapM Text.word32?, optionalWord? r.underscore, optionalWord? r.build with
  | some components, some underscore, some build =>
    let v := ofNumbers components underscore build r.early
    if isFeature v.feature then some v else none
  | _, _, _ => none

/-- The version that a free text mentions first. -/
def parse? (text : List Char) : Option Version :=
  (read? text).bind Reading.toVersion?

/-! ## §4 Writing -/

/-- The feature release as it is spoken of: `1.8`, but `17`. -/
def label (v : Version) : List Char :=
  if v.feature ≤ 8 then '1' :: '.' :: Text.decimal v.feature.toNat
  else Text.decimal v.feature.toNat

/-- A separator and a number, or nothing for zero. -/
def suffixUnlessZero (sep : Char) (n : UInt32) : List Char :=
  if n = 0 then [] else sep :: Text.decimal n.toNat

/-- The written form of a version; build numbers are left out, and up to release 8 so are the
interim and patch numbers. -/
def format (v : Version) : List Char :=
  (if v.feature ≤ 8 then v.label ++ ['.', '0'] ++ suffixUnlessZero '_' v.update
   else
    v.label ++ '.' :: Text.decimal v.interim.toNat ++ '.' :: Text.decimal v.update.toNat
      ++ suffixUnlessZero '.' v.patch)
  ++ if v.early then "-ea".toList else []

instance : ToString Version := ⟨fun v => String.ofList v.format⟩

end Version

end JdkFinder
