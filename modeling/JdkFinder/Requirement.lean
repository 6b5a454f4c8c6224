import JdkFinder.Vendor
import JdkFinder.Version

/-!
# Requirements

What a project asks of a JDK: a rule on the version and, at will, a vendor.  This module holds the
rules, what they accept, and the text in which they are shown; `JdkFinder.Requirement.Parser` reads
them off the names of SDKs.
-/

namespace JdkFinder

/-! ## §1 Rules on versions -/

/-- A rule on versions. -/
inductive VersionSpec where
  /-- The versions of one feature release. -/
  | major (feature : UInt32)
  /-- The versions that agree with a given one on its first numbers. -/
  | leading (version : Version) (segments : Nat)
  /-- The versions of a feature release and all later ones. -/
  | atLeast (feature : UInt32)
  /-- The versions of the feature releases between two, both included. -/
  | range (first last : UInt32)
  /-- The versions of releases with long-term support. -/
  | longTerm
  /-- Every version. -/
  | latest
  deriving DecidableEq, Repr

namespace VersionSpec

/-- Whether a rule accepts a version. -/
def accepts : VersionSpec → Version → Bool
  | major feature, v => v.feature == feature
  | leading version segments, v => Version.agreesOn segments v version
  | atLeast feature, v => feature ≤ v.feature
  | range first last, v => first ≤ v.feature && v.feature ≤ last
  | longTerm, v => v.isLongTerm
  | latest, _ => true

/-- The rule as it is shown to people. -/
def text : VersionSpec → String
  | major feature => String.ofList (Text.decimal feature.toNat)
  | leading version _ => toString version ++ "*"
  | atLeast feature => ">= " ++ String.ofList (Text.decimal feature.toNat)
  | range first last =>
    String.ofList (Text.decimal first.toNat) ++ "..=" ++ String.ofList (Text.decimal last.toNat)
  | longTerm => "lts"
  | latest => "latest"

end VersionSpec

/-! ## §2 Requirements -/

/-- A requirement on a JDK. -/
structure Requirement where
  version : VersionSpec
  vendor : Option Vendor
  deriving DecidableEq, Repr

namespace Requirement

/-- Whether the version rule accepts a version. -/
def acceptsVersion (r : Requirement) (v : Version) : Bool :=
  r.version.accepts v

/-- Whether a JDK of the given vendor will do: any vendor does unless one is asked for. -/
def acceptsVendor (r : Requirement) (vendor : Option Vendor) : Bool :=
  match r.vendor with
  | none => true
  | some required => vendor == some required

/-- The requirement as it is shown to people. -/
def text (r : Requirement) : String :=
  match r.vendor with
  | some vendor => vendor.id ++ " " ++ r.version.text
  | none => r.version.text

end Requirement

end JdkFinder
