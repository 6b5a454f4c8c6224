import JdkFinder.Candidate
import JdkFinder.Configuration
import JdkFinder.Probe
import JdkFinder.SdkKind

/-!
# Scanning the machine

JDKs are looked for in a list of roots: a root is a home itself, or its subdirectories are, or the
bundles in them.  Besides, `JAVA_HOME` and the `java` that is run by its bare name give homes.
Places that turn out to be the same are reported once, under the path met first.

A scan can be cancelled.  It looks for a cancellation before each root and before each home; a
signal tells for each of these looks, counted from zero, whether it finds one.
-/

namespace JdkFinder

/-! ## §1 Roots -/

/-- Where a scan looks. -/
structure Scanner where
  roots : List String
  /-- Whether the environment gives homes too. -/
  usesEnvironment : Bool
  deriving DecidableEq, Repr

namespace Scanner

/-- The places in which systems install JDKs. -/
def systemRoots : List String :=
  ["/usr/lib/jvm", "/usr/java", "/usr/local/java", "/opt/java"]

/-- The places in which users install JDKs. -/
def userRoots (env : Environment) : List String :=
  match env.homeDirectory? with
  | some home =>
    [Path.join home ".jdks", [".sdkman", "candidates", "java"].foldl Path.join home]
  | none => []

/-- A scan of the given roots alone. -/
def ofRoots (roots : List String) : Scanner :=
  ⟨roots, false⟩

/-- The scan that a configuration asks for. -/
def ofConfiguration (config : Configuration) (env : Environment) : Scanner :=
  { roots :=
      systemRoots ++ userRoots env ++ config.extraScanRoots env
        ++ (config.installRoot env).toOption.toList
    usesEnvironment := true }

/-! ## §2 Homes -/

/-- The homes in a subdirectory of a root: the directory itself, and the bundle in it. -/
def homesUnder (fs : FileSystem) (directory : String) : List String :=
  [directory, Path.join (Path.join directory "Contents") "Home"].filter (JdkHome.isValid fs)

/-- The homes of a root: the root itself, or those in its subdirectories.  A link from the root to
itself is no subdirectory. -/
def homesOf (fs : FileSystem) (root : String) : List String :=
  if JdkHome.isValid fs root then [root]
  else
    let directories := ((fs.children root).map (Path.join root)).filter fun directory =>
      fs.isDirectory directory && fs.canonicalize? directory != fs.canonicalize? root
    directories.flatMap (homesUnder fs)

/-- The home of the `java` that is run by its bare name. -/
def homeOfProgram? (fs : FileSystem) (env : Environment) : Option String := do
  let program ← (env.programDirectories.map (Path.join · "java")).find? fs.isExecutable
  let place ← fs.canonicalize? program
  -- The program stands in the directory of programs of the home.
  if place.length < 2 then none else some (Path.ofComponents place.dropLast.dropLast)

/-- The homes that the environment gives. -/
def environmentHomes (fs : FileSystem) (env : Environment) : List String :=
  (env.get? "JAVA_HOME").toList ++ (homeOfProgram? fs env).toList

/-- All homes, in the order in which they are met. -/
def homes (scanner : Scanner) (fs : FileSystem) (env : Environment) : List String :=
  scanner.roots.flatMap (homesOf fs)
    ++ if scanner.usesEnvironment then environmentHomes fs env else []

/-! ## §3 Results -/

/-- Of the homes with their places, those whose place has not been met before. -/
def distinct (met : List Location) : List (String × Location) → List String
  | [] => []
  | (home, place) :: rest =>
    if met.contains place then distinct met rest else home :: distinct (place :: met) rest

/-- The homes that exist, each place once. -/
def distinctHomes (fs : FileSystem) (homes : List String) : List String :=
  distinct [] (homes.filterMap fun home => (fs.canonicalizeLong? home).map (home, ·))

/-- The JDK that a probe has found. -/
def detectedJdk (probe : Probe) : DetectedJdk :=
  ⟨probe.home, probe.versionText, probe.version, probe.suggestedName, probe.vendor⟩

/-- The JDKs that a scan finds when nothing cancels it. -/
def results (scanner : Scanner) (fs : FileSystem) (env : Environment) : List DetectedJdk :=
  ((distinctHomes fs (scanner.homes fs env)).filterMap (Probe.ofValid? fs)).map detectedJdk

/-- How often a scan looks for a cancellation. -/
def looks (scanner : Scanner) (fs : FileSystem) (env : Environment) : Nat :=
  scanner.roots.length + (scanner.homes fs env).length

/-- The JDKs on this machine. -/
def scan (scanner : Scanner) (fs : FileSystem) (env : Environment) (signal : Nat → Bool) :
    Except Error (List DetectedJdk) :=
  if (List.range (scanner.looks fs env)).any signal then .error .cancelled
  else .ok (scanner.results fs env)

/-- The SDKs of a kind on this machine: only JDKs are looked for. -/
def scanKind (scanner : Scanner) (kind : SdkKind) (fs : FileSystem) (env : Environment)
    (signal : Nat → Bool) : Except Error (List DetectedJdk) :=
  if kind = .java then scanner.scan fs env signal else .ok []

end Scanner

end JdkFinder
