import JdkFinder.Vendor
import JdkFinder.Version

/-!
# Suggested names

The name that a JDK is listed under when nobody gave it one: the vendor's word and the feature
release, as in `corretto-11` or `1.8`.
-/

namespace JdkFinder

/-- A vendor that takes part in suggested names; plain `OpenJDK` and Oracle builds go without. -/
def Vendor.isNamed (vendor : Vendor) : Bool :=
  vendor ≠ .openJdk && vendor ≠ .oracle

/-- The vendor of a version text: the one known beforehand, else the one the text mentions. -/
def effectiveVendor? (text : List Char) (vendor : Option Vendor) : Option Vendor :=
  vendor.or (Vendor.detect? text)

def Version.nameFor (v : Version) (vendor : Option Vendor) : List Char :=
  (match vendor with
   | some vendor =>
     if vendor.isNamed then vendor.id.toList ++ '-' :: v.label else v.label
   | none => v.label)
  ++ if v.early then "-ea".toList else []

/-- The suggested name of the JDK whose version a text gives. -/
def suggestName? (text : List Char) (vendor : Option Vendor) : Option (List Char) :=
  (Version.parse? text).map (·.nameFor (effectiveVendor? text vendor))

end JdkFinder
