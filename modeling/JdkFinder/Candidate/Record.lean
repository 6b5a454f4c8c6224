import JdkFinder.Candidate
import JdkFinder.Json.Decode

/-!
# Candidates as JSON records

Every candidate is written as an object with its fields in a fixed order.  Where candidates of all
sources stand together, the first member of the object names the source.
-/

namespace JdkFinder

/-! ## §1 Vendors and versions -/

namespace Vendor

/-- The word for a vendor in records. -/
def tag : Vendor → String
  | temurin => "temurin"
  | corretto => "corretto"
  | zulu => "zulu"
  | liberica => "liberica"
  | graalVm => "graal_vm"
  | sapMachine => "sap_machine"
  | microsoft => "microsoft"
  | oracle => "oracle"
  | openJdk => "open_jdk"

def ofTag? (word : String) : Option Vendor :=
  all.find? (·.tag == word)

/-- A vendor is written as its word. -/
def encode (vendor : Vendor) : Json :=
  .string vendor.tag

/-- A vendor is read from its word, or from an object whose only member is that word without a
value. -/
def decode? : Json → Option Vendor
  | .string word => ofTag? word
  | .object [(word, .null)] => ofTag? word
  | _ => none

/-- Where the sources of candidates are named, an empty object counts as no value too. -/
def decodeLoosely? : Json → Option Vendor
  | .object [(word, .object [])] => ofTag? word
  | j => decode? j

def encodeOption (vendor : Option Vendor) : Json :=
  (vendor.map encode).getD .null

end Vendor

namespace Version

/-- A version is written field by field. -/
def encode (v : Version) : Json :=
  .object
    [("feature", .nat v.feature.toNat), ("interim", .nat v.interim.toNat),
     ("update", .nat v.update.toNat), ("patch", .nat v.patch.toNat),
     ("build", .nat v.build.toNat), ("ea", .bool v.early)]

/-- A version is read field by field. -/
def decode? (j : Json) : Option Version := do
  let slots ← Json.slots? [["feature"], ["interim"], ["update"], ["patch"], ["build"], ["ea"]] j
  match slots with
  | [feature, interim, update, patch, build, early] =>
    some
      { feature := ← feature.required? Json.asWord32?
        interim := ← interim.required? Json.asWord32?
        update := ← update.required? Json.asWord32?
        patch := ← patch.required? Json.asWord32?
        build := ← build.required? Json.asWord32?
        early := ← early.required? Json.asBool? }
  | _ => none

def encodeOption (version : Option Version) : Json :=
  (version.map encode).getD .null

end Version

/-! ## §2 The three sources -/

namespace RegisteredJdk

def members (jdk : RegisteredJdk) : List (String × Json) :=
  [("name", .string jdk.name), ("home_path", .string jdk.home),
   ("version_string", .string jdk.versionText), ("version", jdk.version.encode),
   ("suggested_name", .string jdk.suggestedName), ("vendor", Vendor.encodeOption jdk.vendor),
   ("valid_home", .bool jdk.validHome)]

/-- A registered JDK as a record. -/
def encode (jdk : RegisteredJdk) : Json :=
  .object jdk.members

/-- The registered JDK that a record describes, given how its vendor is read. -/
def decodeWith? (vendorOf : Json → Option Vendor) (j : Json) : Option RegisteredJdk := do
  let slots ← Json.slots?
    [["name"], ["home_path"], ["version_string"], ["version"], ["suggested_name"], ["vendor"],
     ["valid_home"]] j
  match slots with
  | [name, home, versionText, version, suggestedName, vendor, validHome] =>
    some
      { name := ← name.required? Json.asText?
        home := ← home.required? Json.asText?
        versionText := ← versionText.required? Json.asText?
        version := ← version.required? Version.decode?
        suggestedName := ← suggestedName.required? Json.asText?
        vendor := ← vendor.nullable? vendorOf
        validHome := ← validHome.required? Json.asBool? }
  | _ => none

/-- The registered JDK that a record describes. -/
def decode? : Json → Option RegisteredJdk :=
  decodeWith? Vendor.decode?

end RegisteredJdk

namespace DetectedJdk

def members (jdk : DetectedJdk) : List (String × Json) :=
  [("home_path", .string jdk.home), ("version_string", .string jdk.versionText),
   ("version", jdk.version.encode), ("suggested_name", .string jdk.suggestedName),
   ("vendor", Vendor.encodeOption jdk.vendor)]

/-- A detected JDK as a record. -/
def encode (jdk : DetectedJdk) : Json :=
  .object jdk.members

/-- The detected JDK that a record describes, given how its vendor is read. -/
def decodeWith? (vendorOf : Json → Option Vendor) (j : Json) : Option DetectedJdk := do
  let slots ← Json.slots?
    [["home_path"], ["version_string"], ["version"], ["suggested_name"], ["vendor"]] j
  match slots with
  | [home, versionText, version, suggestedName, vendor] =>
    some
      { home := ← home.required? Json.asText?
        versionText := ← versionText.required? Json.asText?
        version := ← version.required? Version.decode?
        suggestedName := ← suggestedName.required? Json.asText?
        vendor := ← vendor.nullable? vendorOf }
  | _ => none

/-- The detected JDK that a record describes. -/
def decode? : Json → Option DetectedJdk :=
  decodeWith? Vendor.decode?

end DetectedJdk

namespace Package

def encode (package : Package) : Json :=
  .object
    [("os", .string package.os), ("arch", .string package.arch),
     ("package_type", .string package.packageType), ("url", .string package.url),
     ("sha256", Json.text? package.sha256), ("size", .nat package.size.toNat),
     ("unpack_prefix", Json.text? package.unpackPrefix)]

/-- The package that a record describes. -/
def decode? (j : Json) : Option Package := do
  let slots ← Json.slots?
    [["os"], ["arch"], ["package_type"], ["url"], ["sha256"], ["size"], ["unpack_prefix"]] j
  match slots with
  | [os, arch, packageType, url, sha256, size, unpackPrefix] =>
    some
      { os := ← os.required? Json.asText?
        arch := ← arch.required? Json.asText?
        packageType := ← packageType.required? Json.asText?
        url := ← url.required? Json.asText?
        sha256 := ← sha256.default? none (Json.asOption? Json.asText?)
        size := ← size.default? 0 Json.asWord64?
        unpackPrefix := ← unpackPrefix.default? none (Json.asOption? Json.asText?) }
  | _ => none

end Package

namespace DownloadableJdk

def members (jdk : DownloadableJdk) : List (String × Json) :=
  [("vendor", Vendor.encodeOption jdk.vendor), ("vendor_name", .string jdk.vendorName),
   ("product", .string jdk.product), ("version_string", .string jdk.versionText),
   ("version", Version.encodeOption jdk.version), ("suggested_name", .string jdk.suggestedName),
   ("lts", .bool jdk.longTerm), ("package", jdk.package.encode)]

/-- A downloadable JDK as a record. -/
def encode (jdk : DownloadableJdk) : Json :=
  .object jdk.members

/-- The downloadable JDK that a record describes, given how its vendor is read. -/
def decodeWith? (vendorOf : Json → Option Vendor) (j : Json) : Option DownloadableJdk := do
  let slots ← Json.slots?
    [["vendor"], ["vendor_name"], ["product"], ["version_string"], ["version"],
     ["suggested_name"], ["lts"], ["package"]] j
  match slots with
  | [vendor, vendorName, product, versionText, version, suggestedName, longTerm, package] =>
    some
      { vendor := ← vendor.nullable? vendorOf
        vendorName := ← vendorName.required? Json.asText?
        product := ← product.required? Json.asText?
        versionText := ← versionText.required? Json.asText?
        version := ← version.nullable? Version.decode?
        suggestedName := ← suggestedName.required? Json.asText?
        longTerm := ← longTerm.required? Json.asBool?
        package := ← package.required? Package.decode? }
  | _ => none

/-- The downloadable JDK that a record describes. -/
def decode? : Json → Option DownloadableJdk :=
  decodeWith? Vendor.decode?

end DownloadableJdk

/-! ## §3 Candidates of all sources -/

namespace Candidate

/-- A candidate as a record that starts with its source. -/
def encode : Candidate → Json
  | registered jdk => .object (("source", .string "registered") :: jdk.members)
  | detected jdk => .object (("source", .string "local") :: jdk.members)
  | downloadable jdk => .object (("source", .string "downloadable") :: jdk.members)

/-- The source of a record, and the record without it. -/
def splitSource? : Json → Option (String × Json)
  | .object fields =>
    match fields.filter (·.1 == "source") with
    | [(_, .string source)] => some (source, .object (fields.filter (·.1 != "source")))
    | _ => none
  | .array (.string source :: rest) => some (source, .array rest)
  | _ => none

/-- The candidate that a record describes. -/
def decode? (j : Json) : Option Candidate :=
  if !j.readable then none
  else
    match splitSource? j with
    | some ("registered", record) =>
      (RegisteredJdk.decodeWith? Vendor.decodeLoosely? record).map .registered
    | some ("local", record) =>
      (DetectedJdk.decodeWith? Vendor.decodeLoosely? record).map .detected
    | some ("downloadable", record) =>
      (DownloadableJdk.decodeWith? Vendor.decodeLoosely? record).map .downloadable
    | _ => none

end Candidate

end JdkFinder
