import JdkFinder.Execution
import Std.Time.DateTime.Timestamp

/-!
# The program

The outer layer.  It reads the files that a run may look at into a file system value, runs the
command line on it, prints what the run prints, and writes back the files that the run has changed.

Files are read by name: of a directory only what the configuration and the environment name is
known.  No program is started, and the web is not asked, so that a catalog must be a file.
-/

namespace JdkFinder.Machine

/-! ## §1 What a run may look at -/

/-- The variables that the program itself knows. -/
def knownVariables : List String :=
  ["HOME", "PATH", "JAVA_HOME", "JDKAUTO_CONFIG"]

/-- The variables that the configuration refers to. -/
def referencedVariables (config : Configuration) : List String :=
  let texts :=
    config.installDirectory.toList ++ config.scanRoots ++ config.registrations.map (·.home)
  texts.filterMap Environment.reference?

/-- The files that a run may change. -/
def ownFiles (env : Environment) : List String :=
  (Configuration.filePath env).toOption.toList
    ++ ((Configuration.directory env).toOption.map fun path =>
      Cache.path ⟨Path.join path "cache", 0⟩ catalogKey).toList

/-- The file that the catalog comes from. -/
def catalogFiles (config : Configuration) : List String :=
  match Url.parse config.catalogUrl with
  | .ok url =>
    if String.ofList url.scheme = "file" then (url.filePath?.bind FileSystem.textOf?).toList else []
  | .error _ => []

/-- The files that tell about the homes which are known by name. -/
def homeFiles (config : Configuration) (env : Environment) : List String :=
  let homes :=
    config.registrations.map (env.expand ·.home)
      ++ (Scanner.ofConfiguration config env).roots ++ (env.get? "JAVA_HOME").toList
  homes.flatMap (fun home => [JdkHome.javaProgram home, Path.join home "release"])
    ++ env.programDirectories.map (Path.join · "java")

/-! ## §2 Reading and writing -/

/-- The variables of the process that have the given names. -/
def readVariables (names : List String) : IO (List (String × String)) := do
  let mut found := []
  for name in names do
    match ← IO.getEnv name with
    | some value => found := found ++ [(name, value)]
    | none => pure ()
  pure found

/-- Puts something at a path, in directories that are made if need be. -/
def put (fs : FileSystem) (path : String) (node : Node) : FileSystem :=
  let directory := (Path.parent? path).getD ""
  let fs := ((FileSystem.makeDirectories directory).run fs).2
  match fs.locateNew path with
  | .ok place => fs.place place node
  | .error _ => fs

/-- Adds a file of the machine, if it is there. -/
def readFile (fs : FileSystem) (path : String) : IO FileSystem := do
  try
    let place := toString (← IO.FS.realPath path)
    let fs := put fs place (.file ⟨← IO.FS.readBinFile path, true, none⟩)
    pure (if place = path then fs else put fs path (.link place))
  catch _ => pure fs

/-- Writes a file of the machine that a run has changed. -/
def writeFile (before after : FileSystem) (path : String) : IO Unit := do
  match (before.readBytes path).toOption, (after.readBytes path).toOption with
  | old, some new =>
    if old ≠ some new then
      IO.FS.createDirAll ((Path.parent? path).getD "")
      IO.FS.writeBinFile path new
  | some _, none => IO.FS.removeFile path
  | none, none => pure ()

/-- The present time in seconds. -/
def currentTime : IO UInt64 := do
  pure (UInt64.ofNat (← Std.Time.Timestamp.now).toSecondsSinceUnixEpoch.val.toNat)

/-- The name of a task, made of random bytes. -/
def freshId : IO String := do
  let bytes := (← IO.getRandomBytes 16).toList.zipIdx.map fun (b, i) =>
    if i = 6 then b % 16 + 64 else if i = 8 then b % 64 + 128 else b
  let digits := bytes.flatMap fun b =>
    [Json.hexDigit (b.toNat / 16), Json.hexDigit (b.toNat % 16)]
  let part (start length : Nat) := String.ofList ((digits.drop start).take length)
  pure ("-".intercalate [part 0 8, part 8 4, part 12 4, part 16 4, part 20 12])

/-- A web that does not answer. -/
def noWeb (url : Url) : WebReply :=
  .silent ("error sending request for url (" ++ url.text ++ ")")

/-- Runs the program on this machine. -/
def run (words : List String) : IO Finish := do
  let working := Path.components ((← IO.getEnv "PWD").getD "/")
  let known ← readVariables knownVariables
  let env : Environment := ⟨known, none⟩
  let fs ← (ownFiles env).foldlM readFile ⟨[], working⟩
  let path := (Configuration.filePath env).toOption.getD ""
  let config := (Configuration.loadFrom path fs).toOption.getD .standard
  let referenced ← readVariables (referencedVariables config)
  let env : Environment := ⟨known ++ referenced, none⟩
  let fs ← (catalogFiles config ++ homeFiles config env).foldlM readFile fs
  let now ← currentTime
  let surroundings : Surroundings :=
    { environment := env, web := noWeb, startTime := now, endTime := now
      interruption := .none, taskId := ← freshId }
  let finish := CommandLine.run words surroundings fs
  (ownFiles env).forM (writeFile fs finish.files)
  pure finish

end JdkFinder.Machine

/-- Runs the program, and ends with its exit code. -/
def main (words : List String) : IO UInt32 := do
  let finish ← JdkFinder.Machine.run words
  IO.print finish.printed
  match finish.complaint with
  | some complaint => IO.eprint complaint.text
  | none => pure ()
  pure (UInt32.ofNat finish.exitCode)
