import JdkFinder.Matching
import JdkFinder.Proofs.Requirement.SuggestedName

/-!
# Asking for a catalog entry by its own name

An entry that comes without a name gets one from its version text and its vendor.  The vendor of the
entry is what its publisher says, and where that names none, the name still takes the vendor that
the version text mentions.  Such an entry is listed under a name that asks for more than the entry
can offer; every other one meets the requirement that its name states
(`DownloadableJdk.own_name_finds_iff`).
-/

namespace JdkFinder

/-! ## §1 Vendors that only the version text tells -/

/-- What the publisher says of a JDK tells no vendor, but its version text mentions one that takes
part in names. -/
structure NamedByVersionOnly (vendorName product versionText : String) : Prop where
  untold : Vendor.detect? (vendorName ++ " " ++ product).toList = none
  mentioned : ∃ vendor, Vendor.detect? versionText.toList = some vendor ∧
    vendor ≠ .openJdk ∧ vendor ≠ .oracle

theorem Vendor.isNamed_iff (vendor : Vendor) :
    vendor.isNamed = true ↔ vendor ≠ .openJdk ∧ vendor ≠ .oracle := by
  simp [isNamed]

/-- A candidate of no known vendor meets a requirement only if that asks for none. -/
theorem Requirement.acceptsVendor_none_iff (r : Requirement) :
    r.acceptsVendor none = true ↔ r.vendor = none := by
  cases hvendor : r.vendor with
  | none => simp [acceptsVendor, hvendor]
  | some vendor => simp [acceptsVendor, hvendor]

/-! ## §2 Names of entries -/

namespace DownloadableJdk

section Entry

variable (vendorName product versionText : String) (package : Package)

/-- The name that an entry gets is the one for its version and the vendor that is known of it. -/
theorem suggestedName_ofPackage {v : Version} (h : Version.parse? versionText.toList = some v) :
    (ofPackage vendorName product versionText none package).suggestedName.toList =
      v.nameFor (effectiveVendor? versionText.toList
        (Vendor.detect? (vendorName ++ " " ++ product).toList)) := by
  rw [ofPackage, suggestName?, h]
  exact String.toList_ofList

/-- The requirement of a release admits an entry of that release if it accepts its vendor. -/
theorem admits_ofPackage_iff {v : Version} (h : Version.parse? versionText.toList = some v)
    (vendor : Option Vendor) :
    Requirement.admits ⟨.major v.feature, vendor⟩
        (ofPackage vendorName product versionText none package) = true ↔
      Requirement.acceptsVendor ⟨.major v.feature, vendor⟩
        (Vendor.detect? (vendorName ++ " " ++ product).toList) = true := by
  have hversion :
      Selectable.version? (ofPackage vendorName product versionText none package) = some v := h
  have husable :
      Selectable.isUsable (ofPackage vendorName product versionText none package) = true := rfl
  have haccepts : (some v).any (Requirement.acceptsVersion ⟨.major v.feature, vendor⟩) = true :=
    Requirement.acceptsVersion_major v vendor
  rw [Requirement.admits, husable, hversion, haccepts, Bool.true_and, Bool.true_and]
  rfl

/-- The name of an entry states a requirement, and the entry meets it unless its vendor is told by
the version text only. -/
theorem own_name_finds_iff {v : Version} (h : Version.parse? versionText.toList = some v) :
    let jdk := ofPackage vendorName product versionText none package
    ∃ r, Requirement.parse? jdk.suggestedName.toList = some r ∧
      (r.admits jdk = true ↔ ¬ NamedByVersionOnly vendorName product versionText) := by
  intro jdk
  have hparse := Requirement.parse?_nameFor (Version.isFeature_of_parse? h)
    (effectiveVendor? versionText.toList
      (Vendor.detect? (vendorName ++ " " ++ product).toList))
  rw [← suggestedName_ofPackage vendorName product versionText package h] at hparse
  refine ⟨_, hparse, ?_⟩
  rw [admits_ofPackage_iff vendorName product versionText package h]
  cases htold : Vendor.detect? (vendorName ++ " " ++ product).toList with
  | some vendor =>
    -- The vendor of the entry is the one of the name.
    have hnot : ¬ NamedByVersionOnly vendorName product versionText := by
      intro hnamed
      rw [hnamed.untold] at htold
      cases htold
    exact iff_of_true (Requirement.acceptsVendor_filter _ (some vendor) _) hnot
  | none =>
    rw [Requirement.acceptsVendor_none_iff, effectiveVendor?, Option.none_or,
      Option.filter_eq_none_iff]
    constructor
    · intro hunnamed hnamed
      obtain ⟨vendor, hvendor, hkind⟩ := hnamed.mentioned
      exact hunnamed vendor hvendor ((Vendor.isNamed_iff vendor).mpr hkind)
    · intro hnot vendor hvendor hkind
      exact hnot ⟨htold, vendor, hvendor, (Vendor.isNamed_iff vendor).mp hkind⟩

end Entry

/-- A package for Linux. -/
def examplePackage : Package :=
  ⟨"linux", "x64", "tar.gz", "https://example.com/jdk.tar.gz", none, 0, none⟩

/-- An entry of Amazon Corretto is found by its name. -/
theorem own_name_finds_corretto :
    let jdk := ofPackage "Amazon" "Corretto" "11.0.9.1" none examplePackage
    Version.parse? "11.0.9.1".toList = some ⟨11, 0, 9, 1, 0, false⟩ ∧
      ∃ r, Requirement.parse? jdk.suggestedName.toList = some r ∧
        (r.admits jdk = true ↔ ¬ NamedByVersionOnly "Amazon" "Corretto" "11.0.9.1") := by
  intro jdk
  have hversion : Version.parse? "11.0.9.1".toList = some ⟨11, 0, 9, 1, 0, false⟩ := by
    decide
  exact ⟨hversion, own_name_finds_iff "Amazon" "Corretto" "11.0.9.1" examplePackage hversion⟩

/-- An entry of an unknown publisher whose version text mentions Corretto is listed as
`corretto-11`, and is not found by that name. -/
theorem own_name_misses_repackaged :
    let jdk := ofPackage "Acme" "" "Corretto 11.0.9.1" none examplePackage
    Version.parse? "Corretto 11.0.9.1".toList = some ⟨11, 0, 9, 1, 0, false⟩ ∧
      jdk.suggestedName = "corretto-11" ∧
      ∃ r, Requirement.parse? jdk.suggestedName.toList = some r ∧ r.admits jdk = false := by
  intro jdk
  have hname : jdk.suggestedName = "corretto-11" := by decide
  refine ⟨by decide, hname, ⟨.major 11, some .corretto⟩, ?_, by decide +kernel⟩
  rw [hname]
  decide +kernel

end DownloadableJdk

end JdkFinder
