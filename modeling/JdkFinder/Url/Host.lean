import JdkFinder.Text.Pieces
import JdkFinder.Url.Domain
import JdkFinder.Url.Percent

/-!
# Hosts of URLs

A host is a domain name, an address of version 4 or one of version 6.  Domain names are written in
ASCII.  In a scheme of which nothing is known the host is kept as it is.
-/

namespace JdkFinder

/-- Why a text is no URL. -/
inductive UrlError where
  | relative
  | emptyHost
  | badDomain
  | badOpaqueHost
  | badPort
  | badAddress4
  | badAddress6
  deriving DecidableEq, Repr

/-- The text of a URL error. -/
def UrlError.message : UrlError → String
  | relative => "relative URL without a base"
  | emptyHost => "empty host"
  | badDomain => "invalid international domain name"
  | badOpaqueHost => "invalid domain character"
  | badPort => "invalid port number"
  | badAddress4 => "invalid IPv4 address"
  | badAddress6 => "invalid IPv6 address"

namespace Host

/-! ## §1 Addresses of version 4 -/

/-- The number that a part of an address writes: in base 16 after `0x`, in base 8 after `0`, else
in base 10. -/
def partValue? (part : List Char) : Option Nat :=
  let inBase (base : Nat) (digits : List Char) : Option Nat :=
    if digits.all fun c => (Percent.hexValue? c).any (· < base) then
      some (digits.foldl (fun n c => n * base + (Percent.hexValue? c).getD 0) 0)
    else none
  match part with
  | [] => none
  | '0' :: 'x' :: digits => inBase 16 digits
  | '0' :: 'X' :: digits => inBase 16 digits
  -- A zero that stands alone is no sign of base 8.
  | '0' :: d :: digits => inBase 8 (d :: digits)
  | digits => inBase 10 digits

/-- The parts of a name between its dots; one dot at the end does not count. -/
def dottedParts (name : List Char) : List (List Char) :=
  let parts := name.splitOn '.'
  if 2 ≤ parts.length ∧ parts.getLast? = some [] then parts.dropLast else parts

/-- Whether a name must be an address: its last part is a number. -/
def endsInNumber (name : List Char) : Bool :=
  match (dottedParts name).getLast? with
  | none => false
  | some part => (!part.isEmpty && part.all Char.isDigit) || (partValue? part).isSome

/-- The number of an address of up to four parts: the last one fills what the others leave. -/
def address4? (name : List Char) : Option Nat := do
  let numbers ← (dottedParts name).mapM partValue?
  let last ← numbers.getLast?
  let others := numbers.dropLast
  if 3 < others.length ∨ others.any (255 < ·) ∨ Nat.pow 256 (4 - others.length) ≤ last then none
  else
    some (last
      + (others.zipIdx.map fun (n, i) => n * Nat.pow 256 (3 - i)).foldl (· + ·) 0)

/-- An address as four numbers between dots. -/
def writeAddress4 (n : Nat) : List Char :=
  ['.'].intercalate ([3, 2, 1, 0].map fun i => Nat.toDigits 10 (n / Nat.pow 256 i % 256))

/-! ## §2 Addresses of version 6 -/

/-- A group of one to four hexadecimal digits. -/
def group? (digits : List Char) : Option Nat :=
  if digits.isEmpty ∨ 4 < digits.length then none
  else
    digits.foldlM (fun n c => (Percent.hexValue? c).map fun d => n * 16 + d) 0

/-- A number of an embedded address: at most 255, without needless zeros. -/
def embeddedPart? (digits : List Char) : Option Nat :=
  if digits.isEmpty ∨ 3 < digits.length ∨ !digits.all Char.isDigit
      ∨ (digits.head? = some '0' ∧ 1 < digits.length) then none
  else some (Nat.ofDigitChars 10 digits 0) |>.filter (· ≤ 255)

/-- The two groups of an embedded address of version 4. -/
def embedded? (s : List Char) : Option (List Nat) :=
  match (s.splitOn '.').mapM embeddedPart? with
  | some [a, b, c, d] => some [a * 256 + b, c * 256 + d]
  | _ => none

/-- The groups between colons; the last may be an embedded address. -/
def groups? (embedded : Bool) (s : List Char) : Option (List Nat) :=
  let parts := s.splitOn ':'
  match parts.getLast? with
  | none => some []
  | some last => do
    let front ← parts.dropLast.mapM group?
    let back ←
      if embedded && last.contains '.' then embedded? last else (group? last).map fun g => [g]
    some (front ++ back)

/-- What stands before and after the first two colons in a row. -/
def splitAtGap? : List Char → Option (List Char × List Char)
  | ':' :: ':' :: rest => some ([], rest)
  | c :: rest => (splitAtGap? rest).map fun (before, after) => (c :: before, after)
  | [] => none

/-- The groups on one side of the gap, if there are any. -/
def sideGroups? (embedded : Bool) (s : List Char) : Option (List Nat) :=
  if s.isEmpty then some [] else groups? embedded s

/-- The eight groups of an address; two colons in a row stand for groups of zero. -/
def address6? (s : List Char) : Option (List Nat) :=
  match splitAtGap? s with
  | none => (groups? true s).filter (·.length = 8)
  | some (before, after) => do
    let front ← sideGroups? false before
    let back ← sideGroups? true after
    if front.length + back.length ≤ 7 then
      some (front ++ List.replicate (8 - front.length - back.length) 0 ++ back)
    else none

/-- The first of the longest runs of zeros, as its place and length. -/
def longestZeros (groups : List Nat) : Nat × Nat :=
  let runs := (List.range groups.length).map fun i =>
    (i, ((groups.drop i).takeWhile (· = 0)).length)
  runs.foldl (fun best run => if best.2 < run.2 then run else best) (0, 0)

/-- An address in brackets, with its longest run of zeros left out if it has at least two. -/
def writeAddress6 (groups : List Nat) : List Char :=
  let write (part : List Nat) := [':'].intercalate (part.map (Nat.toDigits 16))
  let (place, length) := longestZeros groups
  let body :=
    if length < 2 then write groups
    else write (groups.take place) ++ [':', ':'] ++ write (groups.drop (place + length))
  '[' :: body ++ [']']

/-! ## §3 Hosts -/

/-- The domain name in ASCII that a host means, its encoded bytes read. -/
def domain? (s : List Char) : Option (List Char) := do
  let name ← String.fromUTF8? (Percent.decode s).toByteArray
  Domain.ascii? name.toList

/-- An address in brackets. -/
def bracketed (inside : List Char) : Except UrlError (List Char) :=
  match Text.stripSuffix? [']'] inside with
  | none => .error .badAddress6
  | some address =>
    match address6? address with
    | some groups => .ok (writeAddress6 groups)
    | none => .error .badAddress6

/-- The host of a scheme that is known. -/
def parse (s : List Char) : Except UrlError (List Char) :=
  match s with
  | '[' :: inside => bracketed inside
  | _ =>
    match domain? s with
    | none => .error .badDomain
    -- A name can become empty when the characters that do not count are left out.
    | some [] => .error .emptyHost
    | some name =>
      if endsInNumber name then
        match address4? name with
        | some n => .ok (writeAddress4 n)
        | none => .error .badAddress4
      else .ok name

/-- The host of another scheme. -/
def parseOpaque (s : List Char) : Except UrlError (List Char) :=
  match s with
  | '[' :: inside => bracketed inside
  | _ =>
    if s.any ("\x00\t\n\r #/:<>?@[\\]^|".toList.contains ·) then .error .badOpaqueHost
    else .ok (Percent.encode Percent.controls s)

end Host

end JdkFinder
