import JdkFinder.JdkHome
import JdkFinder.SuggestedName

/-!
# Probes

What is known of a JDK in a given place: a home, a version text that writes a version, a vendor if
there is a hint at one, and a suggested name.  Nothing is known unless all of these but the vendor
are.
-/

namespace JdkFinder

/-- What is known of a JDK. -/
structure Probe where
  home : String
  versionText : String
  version : Version
  suggestedName : String
  vendor : Option Vendor
  deriving DecidableEq, Repr

namespace Probe

/-- The version text: the declared one, unless it is blank, else the one found in the home. -/
def versionText? (fs : FileSystem) (home : String) (declared : Option String) : Option String :=
  match (declared.map fun text => Text.trim text.toList).filter (!·.isEmpty) with
  | some text => some (String.ofList text)
  | none => JdkHome.versionText? fs home

/-- The vendor: hinted at by the implementor, else by the path of the home, else by the version
text. -/
def vendor? (fs : FileSystem) (home versionText : String) : Option Vendor :=
  (((JdkHome.implementor? fs home).bind fun text => Vendor.detect? text.toList).or
    (Vendor.detect? home.toList)).or (Vendor.detect? versionText.toList)

/-- The probe of a home with a given version text. -/
def ofVersionText? (fs : FileSystem) (home versionText : String) : Option Probe := do
  let version ← Version.parse? versionText.toList
  let vendor := vendor? fs home versionText
  let suggestedName ← suggestName? versionText.toList vendor
  some ⟨home, versionText, version, String.ofList suggestedName, vendor⟩

/-- The probe of a home.  The home need not be that of a JDK if its version is declared. -/
def of? (fs : FileSystem) (home : String) (declared : Option String) : Option Probe :=
  if home.isEmpty then none
  else (versionText? fs home declared).bind (ofVersionText? fs home)

/-- The probe of a home that must be that of a JDK. -/
def ofValid? (fs : FileSystem) (home : String) : Option Probe :=
  if JdkHome.isValid fs home then of? fs home none else none

end Probe

end JdkFinder
