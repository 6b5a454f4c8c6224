import JdkFinder.Execution
import JdkFinder.Proofs.Execution.Homes
import JdkFinder.Proofs.Matching.Listing
import JdkFinder.Proofs.Matching.VersionText

/-!
# The row of a registration

A registration keeps the home of a JDK and the text of its version.  The row makes a candidate with
what that text says of the version, and the candidate meets what the JDK has met as long as nothing
that counts is lost on the way (`Requirement.eligible_row`).  The rows that were there before make
no candidates that they have not made before (`Registration.toJdk?_before`).
-/

namespace JdkFinder

open FileSystem

/-! ## §1 Versions -/

/-- Rules do not look at build numbers. -/
theorem VersionSpec.accepts_build (spec : VersionSpec) (v : Version) (build : UInt32) :
    spec.accepts { v with build } = spec.accepts v := by
  cases spec <;> rfl

/-! ## §2 Probes -/

/-- The version text of a row is read as it is written. -/
theorem Probe.versionText?_declared (fs : FileSystem) (home : String) (v : Version) :
    versionText? fs home (some (toString v)) = some (toString v) := by
  have htext : (toString v : String).toList = v.format := String.toList_ofList
  obtain ⟨c, cs, hformat, -⟩ := v.exists_format_eq_cons
  have hnonempty : v.format.isEmpty = false := by
    rw [hformat]
    rfl
  simp only [versionText?, Option.map_some, htext, Version.trim_format, Option.filter_some,
    hnonempty, Bool.not_false, ↓reduceIte]
  rfl

/-- What is known of a home stays known if the version is declared in its written form. -/
theorem Probe.of?_declared {fs : FileSystem} {home : String} {probe : Probe}
    (h : ofValid? fs home = some probe) :
    ∃ name, of? fs home (some (toString probe.version)) =
      some ⟨home, toString probe.version, probe.version.written, name,
        vendor? fs home (toString probe.version)⟩ := by
  have hreads := reads_of_ofValid? h
  have htext : (toString probe.version : String).toList = probe.version.format :=
    String.toList_ofList
  have hparse : Version.parse? probe.version.format = some probe.version.written :=
    Version.parse?_format_self (Version.isFeature_of_parse? hreads.version)
  rw [of?, hreads.nonempty, if_neg Bool.false_ne_true, versionText?_declared, Option.bind_some,
    ofVersionText?, htext, hparse]
  simp only [suggestName?, hparse, Option.map_some, Option.bind_eq_bind, Option.bind_some]
  exact ⟨_, rfl⟩

/-- The vendor of a home is told by the implementor or by the path. -/
def JdkHome.TellsVendor (fs : FileSystem) (home : String) : Prop :=
  ((implementor? fs home).bind fun text => Vendor.detect? text.toList).isSome ∨
    (Vendor.detect? home.toList).isSome

/-- A vendor that the home tells does not depend on the version text. -/
theorem Probe.vendor?_of_tellsVendor {fs : FileSystem} {home : String}
    (h : JdkHome.TellsVendor fs home) (text text' : String) :
    vendor? fs home text = vendor? fs home text' := by
  have hhint : (((JdkHome.implementor? fs home).bind fun text => Vendor.detect? text.toList).or
      (Vendor.detect? home.toList)).isSome := by
    rw [Option.isSome_or, Bool.or_eq_true]
    exact h
  rw [vendor?, vendor?, Option.or_of_isSome hhint, Option.or_of_isSome hhint]

/-! ## §3 The new row -/

section NewRow

variable {fs : FileSystem} {env : Environment} {fix : LocalFix} {probe : Probe}

/-- The candidate that the row of a registration makes. -/
theorem Registration.toJdk?_registrationOf (hprobe : Probe.ofValid? fs fix.home = some probe)
    (htext : fix.versionText = toString probe.version)
    (hreference : Environment.reference? fix.home = none) :
    ∃ jdk, (Command.registrationOf fix).toJdk? fs env = some jdk ∧ jdk.home = fix.home ∧
      jdk.version = probe.version.written ∧
      jdk.vendor = Probe.vendor? fs fix.home fix.versionText ∧ jdk.validHome = true := by
  obtain ⟨name, hdeclared⟩ := Probe.of?_declared hprobe
  have hexpand : env.expand fix.home = fix.home := by
    rw [Environment.expand, hreference]
    rfl
  have hvalid := (Probe.reads_of_ofValid? hprobe).isValid
  rw [toJdk?, Command.registrationOf, hexpand, htext, hdeclared, Option.map_some]
  exact ⟨_, rfl, rfl, rfl, rfl, hvalid⟩

/-- A candidate made from the row meets what the JDK has met, unless its version or its vendor has
got lost. -/
theorem Requirement.eligible_row {r : Requirement} {jdk : RegisteredJdk} {v : Version}
    (hprobe : Probe.ofValid? fs fix.home = some probe)
    (hmet : r.Eligible (Scanner.detectedJdk probe) v) (hversion : probe.version.KeepsNumbers)
    (hvendor : r.vendor = none ∨ JdkHome.TellsVendor fs fix.home)
    (hread : jdk.version = probe.version.written) {text : String}
    (hguess : jdk.vendor = Probe.vendor? fs fix.home text) (husable : jdk.validHome = true) :
    r.Eligible jdk probe.version.written where
  usable := husable
  version := congrArg some hread
  acceptsVersion := by
    obtain rfl : probe.version = v := Option.some.inj hmet.version
    rw [Version.written_eq hversion]
    exact (VersionSpec.accepts_build r.version probe.version 0).trans hmet.acceptsVersion
  acceptsVendor := by
    change r.acceptsVendor jdk.vendor = true
    have hfound := (Probe.reads_of_ofValid? hprobe).vendor
    -- The vendor of the row is guessed anew, and the home tells the same one as before.
    rcases hvendor with hnone | htells
    · rw [Requirement.acceptsVendor, hnone]
    · rw [hguess, Probe.vendor?_of_tellsVendor htells text probe.versionText, ← hfound]
      exact hmet.acceptsVendor

end NewRow

/-! ## §4 The rows before it -/

/-- A row that makes a usable candidate after a file is written has made it before. -/
theorem Registration.toJdk?_before {fs fs' : FileSystem} {env : Environment} {place : Location}
    {row : Registration} {jdk : RegisteredJdk} (hwritten : FileWritten place fs fs')
    (hapart : JdkHome.isValid fs' (env.expand row.home) = true →
      JdkHome.Apart fs' place (env.expand row.home))
    (h : row.toJdk? fs' env = some jdk) (husable : jdk.validHome = true) :
    row.toJdk? fs env = some jdk := by
  obtain ⟨probe, hprobe, rfl⟩ := Option.map_eq_some_iff.mp h
  -- The probe keeps the home it was given, so the home of the row is the one that is valid.
  have hhome : probe.home = env.expand row.home := by
    obtain ⟨-, hbound⟩ := Option.ite_none_left_eq_some.mp hprobe
    obtain ⟨text, -, htext⟩ := Option.bind_eq_some_iff.mp hbound
    obtain ⟨v, -, hname⟩ := Option.bind_eq_some_iff.mp htext
    obtain ⟨name, -, hall⟩ := Option.bind_eq_some_iff.mp hname
    cases hall
    rfl
  have hvalid : JdkHome.isValid fs' (env.expand row.home) = true := hhome ▸ husable
  have hsame := hapart hvalid
  -- Nothing the write touches is seen by a probe of that home.
  have hvalid' : JdkHome.isValid fs probe.home = JdkHome.isValid fs' probe.home := by
    rw [hhome]
    exact JdkHome.isValid_eq hwritten hsame
  rw [toJdk?, Probe.of?_eq hwritten hsame, hprobe, Option.map_some, hvalid']

/-- Of some rows that make no candidate for a requirement and one that does, the one is chosen. -/
theorem Requirement.bestMatch?_of_last {r : Requirement} {before : List RegisteredJdk}
    {jdk : RegisteredJdk} {v : Version} (hbefore : r.Declines before) (hjdk : r.Eligible jdk v) :
    r.bestMatch? (before ++ [jdk]) = some jdk := by
  have hnone : before.filterMap r.eligible? = [] := filterMap_eligible?_eq_nil_iff.mpr hbefore
  have hlast : r.eligible? jdk = some (jdk, v) := eligible?_eq_some_iff.mpr ⟨rfl, hjdk⟩
  rw [bestMatch?_eq, List.filterMap_append, hnone]
  simp [hlast]

end JdkFinder
