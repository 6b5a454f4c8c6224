import JdkFinder.Candidate
import JdkFinder.Configuration
import JdkFinder.Probe

/-!
# Registered JDKs

The rows of the configuration as a table: a registration replaces the rows of its name, and the
rows that describe a JDK are turned into candidates.
-/

namespace JdkFinder

namespace Registration

/-- The candidate that a row describes.  A row whose home holds no JDK is kept, but not usable. -/
def toJdk? (row : Registration) (fs : FileSystem) (env : Environment) : Option RegisteredJdk :=
  (Probe.of? fs (env.expand row.home) row.version).map fun probe =>
    { name := row.name
      home := probe.home
      versionText := probe.versionText
      version := probe.version
      suggestedName := probe.suggestedName
      vendor := probe.vendor
      validHome := JdkHome.isValid fs probe.home }

end Registration

namespace Registry

/-- Adds a row at the end, in the stead of those of its name. -/
def register (rows : List Registration) (row : Registration) : List Registration :=
  rows.filter (·.name ≠ row.name) ++ [row]

/-- The candidates that rows describe when nothing cancels the look at them. -/
def candidates (rows : List Registration) (fs : FileSystem) (env : Environment) :
    List RegisteredJdk :=
  rows.filterMap (·.toJdk? fs env)

/-- The candidates that rows describe.  A cancellation is looked for before each row. -/
def snapshot (rows : List Registration) (fs : FileSystem) (env : Environment)
    (signal : Nat → Bool) : Except Error (List RegisteredJdk) :=
  if (List.range rows.length).any signal then .error .cancelled
  else .ok (candidates rows fs env)

end Registry

end JdkFinder
