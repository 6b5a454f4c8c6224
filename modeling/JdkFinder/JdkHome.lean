import JdkFinder.Files.FileSystem
import JdkFinder.Text.Blank
import JdkFinder.Text.Pieces
import JdkFinder.Text.Utf8

/-!
# Homes of JDKs

How a directory is recognised as the home of a JDK, and what can be learned from it: the file
`release` says which version and whose build it is; failing that, the program `bin/java` tells its
version when it is run.
-/

namespace JdkFinder

/-! ## §1 Release files -/

/-- The entries of a release file, in their order. -/
abbrev Release := List (String × String)

namespace Release

/-- The entry on a line: a key and a value around the first equals sign, without white space
around them, and the value without quotes around it. -/
def entry? (line : List Char) : Option (String × String) :=
  (Text.splitOnce? '=' line).map fun (key, value) =>
    (String.ofList (Text.trim key), String.ofList (Text.stripWhile (· == '"') (Text.trim value)))

/-- The entries of a text. -/
def parse (text : String) : Release :=
  (Text.lines text.toList).filterMap entry?

/-- The value of a key: the one in its last entry. -/
def get? (release : Release) (key : String) : Option String :=
  release.reverse.lookup key

/-- The value of a key, unless it is empty. -/
def nonempty? (release : Release) (key : String) : Option String :=
  (release.get? key).filter (!·.isEmpty)

end Release

/-! ## §2 Homes -/

namespace JdkHome

/-- The program of a JDK. -/
def javaProgram (home : String) : String :=
  Path.join (Path.join home "bin") "java"

/-- Whether a directory is the home of a JDK. -/
def isValid (fs : FileSystem) (home : String) : Bool :=
  fs.isDirectory home && fs.isFile (javaProgram home)

/-- The entries of the release file. -/
def release? (fs : FileSystem) (home : String) : Option Release :=
  ((fs.readText (Path.join home "release")).toOption).map Release.parse

/-- What stands between the first and the last quote of a line. -/
def quoted? (line : List Char) : Option (List Char) :=
  match Text.splitOnce? '"' line with
  | none => none
  | some (_, rest) =>
    if rest.contains '"' then some ((rest.reverse.dropWhile (· ≠ '"')).drop 1).reverse else none

/-- The version that the program of a JDK tells on the first line it prints. -/
def reportedVersion? (fs : FileSystem) (home : String) : Option String := do
  let run ← fs.run? (javaProgram home)
  if run.exitCode ≠ 0 then none
  else
    let line ← (Text.lines (Utf8.readLossy run.errorOutput)).head?
    (quoted? line).map String.ofList

/-- The version text of a JDK: the one in its release file, else the one its program tells. -/
def versionText? (fs : FileSystem) (home : String) : Option String :=
  ((release? fs home).bind (·.nonempty? "JAVA_VERSION")).or (reportedVersion? fs home)

/-- Who has built a JDK, as its release file says. -/
def implementor? (fs : FileSystem) (home : String) : Option String :=
  (release? fs home).bind (·.nonempty? "IMPLEMENTOR")

end JdkHome

end JdkFinder
