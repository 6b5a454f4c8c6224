import JdkFinder.SuggestedName

/-!
# Candidates

The JDKs among which a requirement is met: those that are registered by name, those that are found
on this machine, and those that can be downloaded.  This module holds the three types, what they
have in common, and the texts in which they are shown.
-/

namespace JdkFinder

/-! ## §1 The three sources -/

/-- A JDK that the user has registered under a name. -/
structure RegisteredJdk where
  name : String
  home : String
  versionText : String
  version : Version
  suggestedName : String
  vendor : Option Vendor
  /-- Whether the home holds a JDK. -/
  validHome : Bool
  deriving DecidableEq, Repr

/-- A JDK that was found on this machine. -/
structure DetectedJdk where
  home : String
  versionText : String
  version : Version
  suggestedName : String
  vendor : Option Vendor
  deriving DecidableEq, Repr

/-- The package of a downloadable JDK for one platform. -/
structure Package where
  os : String
  arch : String
  packageType : String
  url : String
  sha256 : Option String
  size : UInt64
  /-- The directory inside the archive that is the home of the JDK. -/
  unpackPrefix : Option String
  deriving DecidableEq, Repr

/-- A JDK that can be downloaded. -/
structure DownloadableJdk where
  vendor : Option Vendor
  vendorName : String
  product : String
  versionText : String
  /-- The version that the version text writes, if it writes one. -/
  version : Option Version
  suggestedName : String
  longTerm : Bool
  package : Package
  deriving DecidableEq, Repr

namespace DownloadableJdk

/-- The entry for a package, given what its publisher says of it.  Without a suggested name the
entry is named after its version, or, when the version text writes none, by that text. -/
def ofPackage (vendorName product versionText : String) (suggestedName : Option String)
    (package : Package) : DownloadableJdk :=
  let vendor := Vendor.detect? (vendorName ++ " " ++ product).toList
  let version := Version.parse? versionText.toList
  { vendor
    vendorName
    product
    versionText
    version
    suggestedName :=
      (suggestedName.or ((suggestName? versionText.toList vendor).map String.ofList)).getD
        versionText
    longTerm := version.any Version.isLongTerm
    package }

/-- The entry in one line: vendor, product unless the vendor's name says it, version, platform and
type of the package. -/
def presentation (jdk : DownloadableJdk) : String :=
  (if Text.occursIn jdk.product.toList jdk.vendorName.toList then
    jdk.vendorName ++ " " ++ jdk.versionText
   else jdk.vendorName ++ " " ++ jdk.product ++ " " ++ jdk.versionText)
  ++ (if jdk.longTerm then " (LTS)" else "")
  ++ " [" ++ jdk.package.arch ++ ", " ++ jdk.package.packageType ++ "]"

end DownloadableJdk

/-- A candidate of any source. -/
inductive Candidate where
  | registered (jdk : RegisteredJdk)
  | detected (jdk : DetectedJdk)
  | downloadable (jdk : DownloadableJdk)
  deriving DecidableEq, Repr

/-! ## §2 What candidates have in common -/

/-- A type whose values can be chosen by version and vendor. -/
class Selectable (α : Type) where
  /-- The version, if it is known. -/
  version? : α → Option Version
  vendor? : α → Option Vendor
  /-- Whether the candidate may be chosen at all. -/
  isUsable : α → Bool

instance : Selectable RegisteredJdk where
  version? jdk := some jdk.version
  vendor? jdk := jdk.vendor
  isUsable jdk := jdk.validHome

instance : Selectable DetectedJdk where
  version? jdk := some jdk.version
  vendor? jdk := jdk.vendor
  isUsable _ := true

instance : Selectable DownloadableJdk where
  version? jdk := jdk.version
  vendor? jdk := jdk.vendor
  isUsable _ := true

instance : Selectable Candidate where
  version?
    | .registered jdk => Selectable.version? jdk
    | .detected jdk => Selectable.version? jdk
    | .downloadable jdk => Selectable.version? jdk
  vendor?
    | .registered jdk => Selectable.vendor? jdk
    | .detected jdk => Selectable.vendor? jdk
    | .downloadable jdk => Selectable.vendor? jdk
  isUsable
    | .registered jdk => Selectable.isUsable jdk
    | .detected jdk => Selectable.isUsable jdk
    | .downloadable jdk => Selectable.isUsable jdk

/-! ## §3 How candidates are shown -/

namespace Candidate

/-- The word for the source of a candidate. -/
def sourceName : Candidate → String
  | registered _ => "registered"
  | detected _ => "local"
  | downloadable _ => "download"

/-- The candidate in one line. -/
def describe : Candidate → String
  | registered jdk => jdk.name ++ " (" ++ jdk.versionText ++ ") " ++ jdk.home
  | detected jdk => jdk.suggestedName ++ " (" ++ jdk.versionText ++ ") " ++ jdk.home
  | downloadable jdk => jdk.presentation

end Candidate

end JdkFinder
