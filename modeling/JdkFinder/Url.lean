import JdkFinder.Url.Host

/-!
# URLs

A URL has a scheme, in most schemes an authority (who is asked, on which host and port), a path, and
at will a query and a fragment.  Reading one normalises it: hosts and schemes are in lower case,
default ports are left out, steps up in paths are taken, and characters that may not stand in a part
are encoded.
-/

namespace JdkFinder

/-- A URL, with its parts as they are written in normal form. -/
structure Url where
  scheme : List Char
  /-- User, host and port: what stands between two slashes and the path. -/
  authority : Option (List Char)
  path : List Char
  query : Option (List Char)
  fragment : Option (List Char)
  deriving DecidableEq, Repr

namespace Url

/-! ## §1 Schemes -/

/-- How the parts of a URL depend on its scheme. -/
inductive SchemeKind where
  /-- Files of a host, usually of this one. -/
  | file
  /-- Schemes that always name a host. -/
  | network
  | other
  deriving DecidableEq, Repr

/-- The schemes that always name a host, with their usual ports. -/
def networkSchemes : List (List Char × Nat) :=
  [("http".toList, 80), ("https".toList, 443), ("ws".toList, 80), ("wss".toList, 443),
   ("ftp".toList, 21)]

def kindOf (scheme : List Char) : SchemeKind :=
  if scheme = "file".toList then .file
  else if (networkSchemes.lookup scheme).isSome then .network
  else .other

/-- Whether backslashes count as slashes. -/
def SchemeKind.isSpecial (kind : SchemeKind) : Bool :=
  kind ≠ .other

/-- Whether a character ends an authority. -/
def SchemeKind.endsAuthority (kind : SchemeKind) (c : Char) : Bool :=
  c == '/' || c == '?' || c == '#' || (c == '\\' && kind.isSpecial)

/-- Whether a character stands between the segments of a path. -/
def SchemeKind.isSlash (kind : SchemeKind) (c : Char) : Bool :=
  c == '/' || (c == '\\' && kind.isSpecial)

/-- The scheme before the first colon, in lower case, and what follows. -/
def splitScheme? (s : List Char) : Option (List Char × List Char) :=
  let isSchemeChar (c : Char) := c.isAlphanum || c == '+' || c == '-' || c == '.'
  match s.dropWhile isSchemeChar with
  | ':' :: rest =>
    if s.head?.any Char.isAlpha then some ((s.takeWhile isSchemeChar).map Char.toLower, rest)
    else none
  | _ => none

/-! ## §2 Authorities -/

/-- The part before the last `@`, and the part after it. -/
def splitAtLastAt? (s : List Char) : Option (List Char × List Char) :=
  if s.contains '@' then
    let host := (s.reverse.takeWhile (· ≠ '@')).reverse
    some (s.take (s.length - host.length - 1), host)
  else none

/-- User and password, with the `@` after them, unless both are empty. -/
def writeUserinfo (s : List Char) : List Char :=
  let (user, password) := (Text.splitOnce? ':' s).getD (s, [])
  let encode := Percent.encode Percent.userinfoSet
  if user.isEmpty ∧ password.isEmpty then []
  else
    encode user ++ (if password.isEmpty then [] else ':' :: encode password) ++ ['@']

/-- Splits off the host: up to a colon outside of brackets. -/
def takeHost (kind : SchemeKind) (inBrackets : Bool) : List Char → List Char × List Char
  | [] => ([], [])
  | c :: cs =>
    if (c == ':' && !inBrackets) || kind.endsAuthority c then ([], c :: cs)
    else
      let inside := if c == '[' then true else if c == ']' then false else inBrackets
      let (host, rest) := takeHost kind inside cs
      (c :: host, rest)

/-- The port after a colon, unless it is the usual one, and what follows. -/
def takePort (usual : Option Nat) (s : List Char) : Except UrlError (Option Nat × List Char) :=
  let digits := s.takeWhile Char.isDigit
  let rest := s.dropWhile Char.isDigit
  let port := Nat.ofDigitChars 10 digits 0
  -- No digits at all are read as zero, which passes here and is left out below.
  if 65535 < port then .error .badPort
  else if !rest.head?.all fun c => c == '/' || c == '\\' || c == '?' || c == '#' then
    .error .badPort
  else .ok (if digits.isEmpty ∨ some port = usual then none else some port, rest)

/-- The host after the user, in normal form. -/
def readHost (kind : SchemeKind) (host : List Char) (portFollows : Bool) :
    Except UrlError (List Char) :=
  match kind with
  | .other => do
    let host ← Host.parseOpaque host
    if host.isEmpty && portFollows then .error .emptyHost else .ok host
  | _ => if host.isEmpty then .error .emptyHost else Host.parse host

/-- The authority at the front of a text, and what follows it. -/
def takeAuthority (kind : SchemeKind) (scheme s : List Char) :
    Except UrlError (List Char × List Char) := do
  let front := s.takeWhile (!kind.endsAuthority ·)
  let (user, rest) ← match splitAtLastAt? front with
    | none => pure ([], s)
    | some (user, host) =>
      if user.isEmpty ∧ host.isEmpty ∧ front.length < s.length then throw .emptyHost
      else pure (writeUserinfo user, s.drop (user.length + 1))
  -- What the host stops at stays in the rest: the colon before a port, or the path.
  let (host, rest) := takeHost kind false rest
  let written ← readHost kind host (rest.head? = some ':')
  let (port, rest) ← match rest with
    | ':' :: rest => takePort (networkSchemes.lookup scheme) rest
    | rest => pure (none, rest)
  if written.isEmpty ∧ !user.isEmpty then throw .emptyHost
  else
    let port := match port with
      | some n => ':' :: Nat.toDigits 10 n
      | none => []
    pure (user ++ written ++ port, rest)

/-! ## §3 Paths -/

/-- Whether a segment means the directory above. -/
def isUp (segment : List Char) : Bool :=
  ["..", ".%2e", "%2e.", "%2e%2e"].any fun up => up.toList == segment.map Char.toLower

/-- Whether a segment means the directory itself. -/
def isHere (segment : List Char) : Bool :=
  [".", "%2e"].any fun here => here.toList == segment.map Char.toLower

/-- Whether a segment names a drive: a letter with a colon or a bar. -/
def isDrive (segment : List Char) : Bool :=
  match segment with
  | [letter, sign] => letter.isAlpha && (sign == ':' || sign == '|')
  | _ => false

/-- Goes up from the segments so far, which are given last first.  Drives are not left. -/
def goUp (done : List (List Char)) : List (List Char) :=
  match done with
  | segment :: above => if isDrive segment then done else above
  | [] => []

/-- A segment as it is written after the segments so far: a drive at the front of the path of a file
has a colon. -/
def writeSegment (kind : SchemeKind) (done : List (List Char)) (segment : List Char) : List Char :=
  if kind = .file ∧ done.isEmpty ∧ isDrive segment then segment.take 1 ++ [':'] else segment

/-- Takes the steps that segments mean, where `done` holds the segments so far, last first. -/
def walkSegments (kind : SchemeKind) (done : List (List Char)) :
    List (List Char) → List (List Char)
  | [] => done.reverse
  | segment :: rest =>
    -- A step in the last place leaves a slash behind it.
    if isUp segment then
      walkSegments kind (if rest.isEmpty then [] :: goUp done else goUp done) rest
    else if isHere segment then
      walkSegments kind (if rest.isEmpty then [] :: done else done) rest
    else walkSegments kind (writeSegment kind done segment :: done) rest

/-- The segments between slashes, with their steps taken.  The slash before the first of them is not
given. -/
def segments (kind : SchemeKind) (s : List Char) : List (List Char) :=
  let encoded := Percent.encode Percent.pathSet s
  walkSegments kind [] <|
    (encoded.map fun c => if kind.isSlash c then '/' else c).splitOn '/'

/-- Segments without empty ones at the front; one remains in any case. -/
def dropEmptyFront : List (List Char) → List (List Char)
  | [] :: segment :: rest => dropEmptyFront (segment :: rest)
  | segments => segments

/-- A path, given without the slash at its front.  In paths of files, slashes in a row at the front
count as one. -/
def writePath (kind : SchemeKind) (s : List Char) : List Char :=
  let segments := segments kind s
  '/' :: ['/'].intercalate (if kind = .file then dropEmptyFront segments else segments)

def pathAfterAuthority (kind : SchemeKind) (s : List Char) : List Char :=
  match s with
  | [] => if kind.isSpecial then ['/'] else []
  | c :: rest => writePath kind (if kind.isSlash c then rest else s)

/-! ## §4 Whole URLs -/

/-- What stands before the query and the fragment, and these two. -/
def splitEnds (kind : SchemeKind) (s : List Char) :
    List Char × Option (List Char) × Option (List Char) :=
  let (front, fragment) := match Text.splitOnce? '#' s with
    | some (front, fragment) => (front, some (Percent.encode Percent.fragmentSet fragment))
    | none => (s, none)
  let set := if kind.isSpecial then Percent.specialQuerySet else Percent.querySet
  match Text.splitOnce? '?' front with
  | some (path, query) => (path, some (Percent.encode set query), fragment)
  | none => (front, none, fragment)

/-- A URL of the scheme `file`, given its host and what follows the slash before its path. -/
def fileUrl (host s : List Char) : Url :=
  let (path, query, fragment) := splitEnds .file s
  ⟨"file".toList, some host, writePath .file path, query, fragment⟩

/-- A URL of the scheme `file` with a host, after its slashes. -/
def parseFileHost (s : List Char) : Except UrlError Url := do
  let host := s.takeWhile (!SchemeKind.file.endsAuthority ·)
  let rest := s.drop host.length
  -- What looks like a drive is the front of the path, and no host.
  if isDrive host then pure (fileUrl [] s)
  else
    let written ← if host.isEmpty then pure [] else Host.parse host
    if written.isEmpty ∨ written = "localhost".toList then pure (fileUrl [] rest)
    else
      let front := rest.takeWhile SchemeKind.file.isSlash |>.take 1
      let path := rest.drop front.length
      -- Drives are on this machine.
      let onDrive := (segments .file (splitEnds .file path).1).head?.any isDrive
      pure (fileUrl (if onDrive then [] else written) path)

/-- A URL of the scheme `file`, after its colon. -/
def parseFile (s : List Char) : Except UrlError Url :=
  let slash := SchemeKind.file.isSlash
  match s with
  | a :: b :: rest =>
    if slash a ∧ slash b then parseFileHost rest
    else .ok (fileUrl [] (if slash a then b :: rest else s))
  | [a] => .ok (fileUrl [] (if slash a then [] else s))
  | [] => .ok (fileUrl [] [])

/-- A URL with an authority, after the slashes before it. -/
def parseAuthority (kind : SchemeKind) (scheme s : List Char) : Except UrlError Url := do
  let (authority, rest) ← takeAuthority kind scheme s
  let (path, query, fragment) := splitEnds kind rest
  pure ⟨scheme, some authority, pathAfterAuthority kind path, query, fragment⟩

/-- A URL of a scheme of which nothing is known, after its colon. -/
def parseOther (scheme s : List Char) : Except UrlError Url :=
  match s with
  | '/' :: '/' :: rest => parseAuthority .other scheme rest
  | _ =>
    let (path, query, fragment) := splitEnds .other s
    let path := match path with
      | '/' :: path => writePath .other path
      | path => Percent.encode Percent.controls path
    .ok ⟨scheme, none, path, query, fragment⟩

/-- The text of a URL without control characters and spaces at its ends, and without tabs and line
ends anywhere. -/
def strip (s : List Char) : List Char :=
  let atEnd (c : Char) : Bool := c.toNat ≤ 0x20
  ((s.dropWhile atEnd).reverse.dropWhile atEnd).reverse.filter fun c =>
    c != '\t' && c != '\n' && c != '\r'

/-- The URL that a text writes. -/
def parse (text : String) : Except UrlError Url :=
  match splitScheme? (strip text.toList) with
  | none => .error .relative
  | some (scheme, rest) =>
    match kindOf scheme with
    | .file => parseFile rest
    | .network =>
      parseAuthority .network scheme (rest.dropWhile SchemeKind.network.isSlash)
    | .other => parseOther scheme rest

/-- A URL in normal form. -/
def text (url : Url) : String :=
  let part (sign : Char) : Option (List Char) → List Char
    | some s => sign :: s
    | none => []
  String.ofList <|
    url.scheme ++ [':'] ++ (match url.authority with
      | some authority => '/' :: '/' :: authority
      | none => [])
    ++ url.path ++ part '?' url.query ++ part '#' url.fragment

/-- A URL without user and password, if they are text when their encoded bytes are read; otherwise
the URL as it is. -/
def withoutUser (url : Url) : Url :=
  match url.authority.bind splitAtLastAt? with
  | none => url
  | some (user, host) =>
    let isText (s : List Char) : Bool := (String.fromUTF8? (Percent.decode s).toByteArray).isSome
    let (name, password) := (Text.splitOnce? ':' user).getD (user, [])
    -- A name that is there counts, whatever the password is.
    if isText name && (!name.isEmpty || isText password) then { url with authority := some host }
    else url

/-! ## §5 Files -/

/-- The path of the file that a URL names on this machine, in bytes.  A drive at the end of a path
stands for its root. -/
def filePath? (url : Url) : Option (List UInt8) :=
  if url.authority = some [] ∨ url.authority = some "localhost".toList then
    let path := ((url.path.drop 1).splitOn '/').flatMap fun segment =>
      UInt8.ofNat '/'.toNat :: Percent.decode segment
    let last := path.drop (path.length - 2)
    let endsInDrive := isDrive (last.map fun b => Char.ofNat b.toNat)
    some (if endsInDrive then path ++ [UInt8.ofNat '/'.toNat] else path)
  else none

end Url

end JdkFinder
