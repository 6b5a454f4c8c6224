import JdkFinder.Environment
import JdkFinder.Error
import JdkFinder.Text.Blank

/-!
# The configuration

What the user can set, the values that hold otherwise, and where the configuration is kept.
-/

namespace JdkFinder

/-! ## §1 The settings -/

/-- A JDK that the user has registered: a row of the configuration. -/
structure Registration where
  name : String
  home : String
  /-- The version, if it was known when the JDK was registered. -/
  version : Option String
  description : String
  deriving DecidableEq, Repr

/-- The settings of the user. -/
structure Configuration where
  /-- Whether JDKs that are not set up are looked for at all. -/
  autoSetup : Bool
  catalogUrl : String
  /-- For how many seconds a downloaded catalog is used again; for none if zero. -/
  catalogTtl : UInt64
  /-- Where JDKs are installed. -/
  installDirectory : Option String
  /-- Where JDKs are looked for, besides the usual places. -/
  scanRoots : List String
  registrations : List Registration
  deriving DecidableEq, Repr

namespace Configuration

/-- The URL of the catalog unless another one is set. -/
def defaultCatalogUrl : String :=
  "https://download.jetbrains.com/jdk/feed/v1/jdks.json"

/-- For how many seconds a catalog is used unless another time is set. -/
def defaultCatalogTtl : UInt64 := 3600

/-- The settings that hold when nothing is set. -/
def standard : Configuration :=
  { autoSetup := true
    catalogUrl := defaultCatalogUrl
    catalogTtl := defaultCatalogTtl
    installDirectory := none
    scanRoots := []
    registrations := [] }

/-! ## §2 Places -/

/-- The home directory, which must be known. -/
def homeDirectory (env : Environment) : Except Error String :=
  match env.homeDirectory? with
  | some home => .ok home
  | none => .error (.config .noHomeDirectory)

/-- The directory of the program's own files. -/
def directory (env : Environment) : Except Error String :=
  (homeDirectory env).map (Path.join · ".jdkauto")

/-- The file of the configuration: the one the user names, else the one in the program's own
directory. -/
def filePath (env : Environment) : Except Error String :=
  match (env.get? "JDKAUTO_CONFIG").filter fun path => !path.toList.all Text.isBlank with
  | some path => .ok path
  | none => (directory env).map (Path.join · "config.toml")

/-- The directory under which JDKs are installed. -/
def installRoot (config : Configuration) (env : Environment) : Except Error String :=
  match config.installDirectory with
  | some path => .ok (env.expand path)
  | none => (homeDirectory env).map (Path.join · ".jdks")

/-- The places in which JDKs are looked for besides the usual ones. -/
def extraScanRoots (config : Configuration) (env : Environment) : List String :=
  config.scanRoots.map env.expand

end Configuration

end JdkFinder
