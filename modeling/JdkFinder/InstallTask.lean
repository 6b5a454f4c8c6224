import JdkFinder.Candidate
import JdkFinder.Files.Path
import JdkFinder.Json.Basic
import JdkFinder.Text.Blank

/-!
# Install tasks

What is to be downloaded, in which form it comes, and where it is to be unpacked.
-/

namespace JdkFinder

/-! ## §1 Archives -/

/-- The form in which a package comes. -/
inductive ArchiveKind where
  | zip
  | tarGz
  | unknown
  deriving DecidableEq, Repr

namespace ArchiveKind

/-- The word for an archive. -/
def tag : ArchiveKind → String
  | zip => "zip"
  | tarGz => "tar_gz"
  | unknown => "unknown"

/-- The archive that a package type declares. -/
def ofPackageType? (packageType : List Char) : Option ArchiveKind :=
  let declared := Text.lowercase (Text.trim packageType)
  if declared = "zip".toList then some zip
  else if declared = "tar.gz".toList ∨ declared = "targz".toList ∨ declared = "tgz".toList then
    some tarGz
  else none

/-- The archive that the ending of a URL hints at. -/
def ofUrl (url : List Char) : ArchiveKind :=
  let url := Text.lowercase url
  let endsWith (ending : String) := (Text.stripSuffix? ending.toList url).isSome
  if endsWith ".zip" then zip
  else if endsWith ".tar.gz" || endsWith ".tgz" then tarGz
  else unknown

/-- The archive of a package: the declared one, else the one the URL hints at. -/
def detect (packageType url : String) : ArchiveKind :=
  (ofPackageType? packageType.toList).getD (ofUrl url.toList)

end ArchiveKind

/-! ## §2 Tasks -/

/-- The task to install a JDK. -/
structure InstallTask where
  /-- What tells the task from all others. -/
  id : String
  name : String
  versionText : String
  url : String
  sha256 : Option String
  size : UInt64
  archive : ArchiveKind
  unpackPrefix : Option String
  target : String
  deriving DecidableEq, Repr

namespace InstallTask

/-- A task as a record. -/
def encode (task : InstallTask) : Json :=
  .object
    [("id", .string task.id), ("sdk_name", .string task.name),
     ("version_string", .string task.versionText), ("url", .string task.url),
     ("sha256", Json.text? task.sha256), ("size", .nat task.size.toNat),
     ("archive", .string task.archive.tag), ("unpack_prefix", Json.text? task.unpackPrefix),
     ("target_dir", .string task.target)]

end InstallTask

namespace DownloadableJdk

/-- The characters that are kept in directory names. -/
def isDirectoryChar (c : Char) : Bool :=
  c.isAlphanum || c == '.' || c == '-' || c == '_' || c == '+'

/-- The name of the directory for a JDK, made of its suggested name and its version.  Other
characters than the kept ones become underscores, and there are none at the ends. -/
def directoryName (jdk : DownloadableJdk) : String :=
  let base := (jdk.suggestedName ++ "-" ++ jdk.versionText).toList
  String.ofList <|
    Text.stripWhile (· == '_') (base.map fun c => if isDirectoryChar c then c else '_')

/-- The directory in which a JDK is installed unless another one is asked for. -/
def installDirectory (jdk : DownloadableJdk) (installRoot : String) : String :=
  Path.join installRoot jdk.directoryName

/-- The task to install a JDK in a directory. -/
def installTask (jdk : DownloadableJdk) (id target : String) : InstallTask :=
  { id
    name := jdk.suggestedName
    versionText := jdk.versionText
    url := jdk.package.url
    sha256 := jdk.package.sha256
    size := jdk.package.size
    archive := .detect jdk.package.packageType jdk.package.url
    unpackPrefix := jdk.package.unpackPrefix
    target }

end DownloadableJdk

end JdkFinder
