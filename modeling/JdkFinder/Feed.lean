import JdkFinder.Candidate
import JdkFinder.Error
import JdkFinder.Json.Decode
import JdkFinder.Json.Reader
import JdkFinder.Platform

/-!
# Feeds

A feed is a JSON document that lists JDKs with their packages for several platforms.  An entry that
is not as it should be is left out; the document as a whole must be well formed.
-/

namespace JdkFinder

/-! ## §1 Entries -/

/-- A package of a feed entry. -/
structure FeedPackage where
  os : String
  arch : String
  packageType : String
  url : String
  sha256 : Option String
  size : UInt64
  unpackPrefix : Option String
  deriving DecidableEq, Repr

/-- An entry of a feed: a JDK with its packages. -/
structure FeedEntry where
  vendor : String
  product : String
  version : String
  suggestedName : Option String
  packages : List FeedPackage
  deriving DecidableEq, Repr

/-- The package that a record describes. -/
def FeedPackage.decode? (j : Json) : Option FeedPackage := do
  let slots ← Json.slots?
    [["os"], ["arch"], ["package_type"], ["url"], ["sha256"], ["size", "archive_size"],
     ["unpack_prefix", "unpack_prefix_filter"]] j
  match slots with
  | [os, arch, packageType, url, sha256, size, unpackPrefix] =>
    some
      { os := ← os.required? Json.asText?
        arch := ← arch.required? Json.asText?
        packageType := ← packageType.default? "" Json.asText?
        url := ← url.required? Json.asText?
        sha256 := ← sha256.default? none (Json.asOption? Json.asText?)
        size := ← size.default? 0 Json.asWord64?
        unpackPrefix := ← unpackPrefix.default? none (Json.asOption? Json.asText?) }
  | _ => none

namespace FeedEntry

/-- The entry that a record describes. -/
def decode? (j : Json) : Option FeedEntry := do
  let slots ← Json.slots?
    [["vendor"], ["product"], ["jdk_version"], ["suggested_sdk_name"], ["packages"]] j
  match slots with
  | [vendor, product, version, suggestedName, packages] =>
    some
      { vendor := ← vendor.required? Json.asText?
        product := ← product.default? "" Json.asText?
        version := ← version.required? Json.asText?
        suggestedName := ← suggestedName.default? none (Json.asOption? Json.asText?)
        packages := ← packages.default? [] (Json.asList? FeedPackage.decode?) }
  | _ => none

/-- The downloadable JDK that an entry offers with one of its packages. -/
def offer (entry : FeedEntry) (package : FeedPackage) : DownloadableJdk :=
  .ofPackage entry.vendor entry.product entry.version entry.suggestedName
    { os := Platform.usualOs package.os
      arch := Platform.usualArch package.arch
      packageType := package.packageType
      url := package.url
      sha256 := package.sha256
      size := package.size
      unpackPrefix := package.unpackPrefix }

/-- What an entry offers for a platform: one JDK per package. -/
def offers (entry : FeedEntry) (platform : Platform) : List DownloadableJdk :=
  (entry.packages.filter fun package => platform.isNamed package.os package.arch).map entry.offer

end FeedEntry

/-! ## §2 Feeds -/

namespace Feed

/-- The elements of the list of JDKs, if the document is a feed and each of them has a value. -/
def elements? (j : Json) : Option (List Json) := do
  match ← Json.slots? [["jdks"]] j with
  | [jdks] => jdks.default? [] (Json.asList? Json.value?)
  | _ => none

/-- What the elements of a feed offer for a platform. -/
def offersOf (platform : Platform) (elements : List Json) : List DownloadableJdk :=
  (elements.filterMap FeedEntry.decode?).flatMap (·.offers platform)

/-- What a feed offers for a platform. -/
def parse (text : String) (platform : Platform) : Except Error (List DownloadableJdk) :=
  match (Json.read? text.toList).bind elements? with
  | some elements => .ok (offersOf platform elements)
  | none => .error (.serialization "invalid feed")

end Feed

end JdkFinder
