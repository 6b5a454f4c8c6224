import JdkFinder.Catalog
import JdkFinder.Configuration.File
import JdkFinder.Registry
import JdkFinder.Scan
import JdkFinder.Session

/-!
# The surroundings of a run

What a run of the program meets with, and the collaborators of a session that work on the machine.
-/

namespace JdkFinder

/-! ## §1 Surroundings -/

/-- When the user interrupts a run. -/
structure Interruption where
  atStart : Bool
  /-- For each look during the reading of the table, whether an interruption has come by then. -/
  whileReading : Nat → Bool
  /-- The same for the looks during a scan. -/
  whileScanning : Nat → Bool
  whileDownloading : Bool

namespace Interruption

def none : Interruption :=
  ⟨false, fun _ => false, fun _ => false, false⟩

/-- An interruption before the command begins. -/
def fromStart : Interruption :=
  { none with atStart := true }

/-- The interruption as a fetch meets it. -/
def ofFetch (i : Interruption) : FetchInterruption :=
  if i.atStart then .beforeStart else if i.whileDownloading then .whileDownloading else .never

end Interruption

/-- What a run meets with besides the files. -/
structure Surroundings where
  environment : Environment
  web : Web
  /-- The time when a fetch starts. -/
  startTime : UInt64
  /-- The time when a fetch ends. -/
  endTime : UInt64
  interruption : Interruption
  /-- The name for an install task that no other task has. -/
  taskId : String

namespace Surroundings

/-- What a fetch meets with. -/
def fetchCircumstances (s : Surroundings) : FetchCircumstances :=
  ⟨s.web, s.startTime, s.endTime, s.interruption.ofFetch⟩

/-- The registered JDKs. -/
def readTable (s : Surroundings) (config : Configuration) (cancelled : Bool) (fs : FileSystem) :
    Except Error (List RegisteredJdk) :=
  Registry.snapshot config.registrations fs s.environment fun look =>
    cancelled || s.interruption.whileReading look

/-- The JDKs on the machine. -/
def scan (s : Surroundings) (config : Configuration) (cancelled : Bool) (fs : FileSystem) :
    Except Error (List DetectedJdk) :=
  (Scanner.ofConfiguration config s.environment).scanKind .java fs s.environment fun look =>
    cancelled || s.interruption.whileScanning look

end Surroundings

/-! ## §2 Collaborators on the machine -/

/-- Whether a result is due to a cancellation. -/
def isCancellation {α : Type} : Except Error α → Bool
  | .ok _ => false
  | .error e => e.isCancelled

namespace Configuration

/-- The cache of the catalog, unless caching is switched off. -/
def catalogCache? (config : Configuration) (env : Environment) :
    Except Error (Option Cache) :=
  if config.catalogTtl = 0 then .ok none
  else (directory env).map fun path => some ⟨Path.join path "cache", config.catalogTtl⟩

/-- Where the catalog comes from. -/
def catalogSource (config : Configuration) (env : Environment) : Except Error CatalogSource :=
  (config.catalogCache? env).map fun cache => ⟨config.catalogUrl, .current, cache⟩

end Configuration

namespace Collaborators

/-- The collaborators that work on the machine; without a source the catalog is empty. -/
def onMachine (config : Configuration) (source : Option CatalogSource) (s : Surroundings) :
    Collaborators FileSystem where
  readTable cancelled fs :=
    match s.readTable config cancelled fs with
    | .ok jdks => ((.served jdks, false), fs)
    | .error e => ((.failed e, e.isCancelled), fs)
  scan fs :=
    let result := s.scan config false fs
    (.ready (isCancellation result) result, fs)
  fetch fs :=
    match source with
    | none => (.ready false (.ok []), fs)
    | some source =>
      let (result, fs) := (source.fetch s.fetchCircumstances).run fs
      (.ready (isCancellation result) result, fs)

end Collaborators

end JdkFinder
