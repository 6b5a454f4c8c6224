import JdkFinder.Json.Basic
import JdkFinder.Candidate.Record
import JdkFinder.Matching

/-!
# Outcomes

What resolving a requirement leads to: a JDK on this machine, or else one to download.
-/

namespace JdkFinder

/-! ## §1 JDKs on this machine -/

/-- How a JDK on this machine became known. -/
inductive FixOrigin where
  | registered
  | detected
  deriving DecidableEq, Repr

/-- The word for an origin. -/
def FixOrigin.tag : FixOrigin → String
  | registered => "registered"
  | detected => "detected"

/-- The proposal to use a JDK on this machine. -/
structure LocalFix where
  home : String
  versionText : String
  suggestedName : String
  origin : FixOrigin
  deriving DecidableEq, Repr

namespace LocalFix

/-- The proposal to use a registered JDK. -/
def ofRegistered (jdk : RegisteredJdk) : LocalFix :=
  ⟨jdk.home, toString jdk.version, jdk.suggestedName, .registered⟩

/-- The proposal to use a detected JDK. -/
def ofDetected (jdk : DetectedJdk) : LocalFix :=
  ⟨jdk.home, toString jdk.version, jdk.suggestedName, .detected⟩

/-- The members of the record. -/
def members (fix : LocalFix) : List (String × Json) :=
  [("existing_sdk_home", .string fix.home), ("version_string", .string fix.versionText),
   ("suggested_sdk_name", .string fix.suggestedName), ("origin", .string fix.origin.tag)]

/-- A proposal as a record. -/
def encode (fix : LocalFix) : Json :=
  .object fix.members

end LocalFix

/-! ## §2 Outcomes -/

/-- What a requirement is met with. -/
inductive Outcome where
  | localFix (fix : LocalFix)
  | download (jdk : DownloadableJdk)
  deriving DecidableEq, Repr

namespace Outcome

/-- The version of the JDK, as it is shown. -/
def versionText : Outcome → String
  | localFix fix => fix.versionText
  | download jdk => jdk.versionText

/-- Whether nothing has to be downloaded. -/
def isLocal : Outcome → Bool
  | localFix _ => true
  | download _ => false

/-- An outcome as a record. -/
def encode : Outcome → Json
  | localFix fix => .object (("kind", .string "local_fix") :: fix.members)
  | download jdk => .object [("kind", .string "download"), ("sdk", jdk.encode)]

end Outcome

/-! ## §3 Resolving a requirement -/

namespace Requirement

/-- The JDK on this machine that meets a requirement; registered ones come first. -/
def resolveLocal (r : Requirement) (registered : List RegisteredJdk)
    (detected : List DetectedJdk) : Option LocalFix :=
  match r.bestMatch? registered with
  | some jdk => some (.ofRegistered jdk)
  | none => (r.bestMatch? detected).map .ofDetected

/-- The downloadable JDK that meets a requirement. -/
def resolveDownload (r : Requirement) (catalog : List DownloadableJdk) : Option DownloadableJdk :=
  r.bestMatch? catalog

/-- What meets a requirement: a JDK on this machine, else a downloadable one. -/
def resolve (r : Requirement) (registered : List RegisteredJdk) (detected : List DetectedJdk)
    (catalog : List DownloadableJdk) : Option Outcome :=
  match r.resolveLocal registered detected with
  | some fix => some (.localFix fix)
  | none => (r.resolveDownload catalog).map .download

end Requirement

end JdkFinder
