import JdkFinder.Requirement
import JdkFinder.SdkKind

/-!
# Reading requirements

The name of an SDK, such as `corretto-11`, `jdk 17+` or `8-11`, states a requirement: words that
name a vendor or say nothing, and then a version.  A name that does not follow this form is
declined.
-/

namespace JdkFinder

/-! ## §1 Feature releases -/

/-- A feature release from 1 to 99, as a plain number. -/
def feature? (text : List Char) : Option UInt32 :=
  (Text.word32? text).filter Version.isFeature

/-- A bound on feature releases: a feature release, or one of the first eight written `1.8`. -/
def bound? (text : List Char) : Option UInt32 :=
  let text := Text.trim text
  match Text.stripPrefix? ['1', '.'] text with
  | some release => (Text.word32? release).filter fun n => 1 ≤ n && n ≤ 8
  | none => feature? text

/-! ## §2 Version rules -/

/-- The characters of a dotted version. -/
def isDottedChar (c : Char) : Bool :=
  c.isDigit || c == '.' || c == '_'

/-- A dotted version such as `11.0.2` fixes as many numbers as it writes.  Versions that start with
`1.` count from the second number: with an underscore they fix the update, without one only the
feature release. -/
def dotted? (text : List Char) : Option VersionSpec :=
  if !text.all isDottedChar then none
  else
    (Version.parse? text).map fun version =>
      let components := (text.splitOn '.').length
      let underscored := text.contains '_'
      if ['1', '.'].isPrefixOf text then
        if components = 2 && !underscored then .major version.feature
        else .leading version (if underscored then 3 else 1)
      else .leading version components

/-- The version text without the letters before it and the early-access mark after it. -/
def bareVersion (text : List Char) : List Char :=
  let text := Text.dropCopies "openjdk".toList (Text.trim text)
  let text := Text.dropCopies "jdk".toList text
  let text := Text.dropCopies "java".toList text
  let text := Text.trim (Text.dropCopies ['v'] text)
  (Text.stripSuffix? "-ea".toList text).getD text

/-- A range of feature releases, if its ends are in order. -/
def range? (first last : List Char) : Option VersionSpec :=
  match bound? first, bound? last with
  | some first, some last => if first ≤ last then some (.range first last) else none
  | _, _ => none

/-- The version rule that a text states. -/
def VersionSpec.parse? (text : List Char) : Option VersionSpec :=
  let text := bareVersion text
  if text.isEmpty then none
  else
    match Text.stripSuffix? ['+'] text with
    | some base => (bound? base).map .atLeast
    | none =>
      match Text.splitOnce? '-' text with
      | some (first, last) => range? first last
      | none =>
        match Text.word32? text with
        | some _ => (feature? text).map .major
        | none => dotted? text

/-! ## §3 Requirements -/

/-- Words of a name that say nothing about the version or the vendor. -/
def noiseWords : List (List Char) :=
  ["jdk", "java", "jre", "openjdk", "hotspot"].map String.toList

/-- Reads the words before the version: noise is skipped, the first vendor is kept, and from the
first other word on everything is the version. -/
def splitWords (vendor : Option Vendor) : List (List Char) → Option Vendor × List (List Char)
  | [] => (vendor, [])
  | word :: rest =>
    if noiseWords.contains word then splitWords vendor rest
    else
      match Vendor.ofAlias? word with
      | some found => splitWords (vendor.or (some found)) rest
      | none => (vendor, word :: rest)

/-- The version rules that have a name of their own. -/
def namedSpec? (text : List Char) : Option VersionSpec :=
  if text = "lts".toList ∨ text = "latest-lts".toList then some .longTerm
  else if text = "latest".toList ∨ text = "newest".toList then some .latest
  else none

/-- The words of a name: white space and hyphens separate them. -/
def nameWords (text : List Char) : List (List Char) :=
  ((['-'].intercalate (Text.words text)).splitOn '-').filter (!·.isEmpty)

/-- The requirement that the name of an SDK states. -/
def Requirement.parse? (name : List Char) : Option Requirement :=
  let name := Text.lowercase (Text.trim name)
  match namedSpec? name with
  | some spec => some ⟨spec, none⟩
  | none =>
    let (vendor, version) := splitWords none (nameWords name)
    (VersionSpec.parse? (['-'].intercalate version)).map (⟨·, vendor⟩)

/-- The requirement that an SDK states by its name. -/
def UnknownSdk.requirement? (sdk : UnknownSdk) : Option Requirement :=
  Requirement.parse? sdk.name.toList

end JdkFinder
