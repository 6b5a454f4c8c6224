import JdkFinder.Proofs.Execution.Homes
import JdkFinder.Proofs.Files.Aliases

/-!
# Homes under several paths

What is known of the home of a JDK does not depend on the path that leads to it, but for the vendor
and the name that the path may suggest.  Only a path along which the way to the program or to the
release file is cut short hides what is there (`Probe.isSome_ofValid?_of_alias`).
-/

namespace JdkFinder

open FileSystem

/-! ## §1 Homes -/

namespace JdkHome

/-- Neither the way to the program of a home nor the one to its release file is cut short. -/
structure WithinReach (fs : FileSystem) (home : String) : Prop where
  program : ¬ fs.CutShort (javaProgram home)
  release : ¬ fs.CutShort (Path.join home "release")

variable {fs : FileSystem} {home home' : String} {place : Location}

theorem extends_javaProgram (hhome : home ≠ "") :
    Extends home (javaProgram home) ["bin", "java"] := by
  have hbin : Extends home (Path.join home "bin") ([] ++ ["bin"]) :=
    extends_join hhome (by decide) (by decide)
  exact hbin.join (by decide) (by decide) (by decide)

theorem extends_release (hhome : home ≠ "") : Extends home (Path.join home "release") ["release"] :=
  extends_join hhome (by decide) (by decide)

/-- A home leads to a directory. -/
theorem exists_place_of_isValid (h : isValid fs home = true) :
    ∃ place, fs.canonicalize? home = some place ∧ fs.nodeAt? place = some .directory := by
  obtain ⟨hdirectory, -⟩ := Bool.and_eq_true_iff.mp h
  exact Option.bind_eq_some_iff.mp (beq_iff_eq.mp hdirectory)

theorem ne_empty_of_canonicalize? (h : fs.canonicalize? home = some place) : home ≠ "" := by
  obtain ⟨pieces, hpieces, -⟩ := canonicalize?_eq_some_iff.mp h
  exact (walkable_eq_ok_iff.mp hpieces).2.1

/-- The path of a home within reach can be opened. -/
theorem WithinReach.canonicalize?_of_long (h : WithinReach fs home)
    (hlong : fs.canonicalizeLong? home = some place) : fs.canonicalize? home = some place := by
  have hhome : home ≠ "" := (canonicalizeLong?_eq_some_iff.mp hlong).2.1
  exact (extends_javaProgram hhome).canonicalize?_of_long h.program hlong

section Aliases

variable (hhome : fs.canonicalize? home = some place) (hhome' : fs.canonicalize? home' = some place)
  (hplace : fs.nodeAt? place = some .directory) (hreach : WithinReach fs home)
  (hreach' : WithinReach fs home')

include hhome hhome' hplace hreach hreach'

theorem fileOf?_javaProgram_of_alias :
    fs.fileOf? (javaProgram home) = fs.fileOf? (javaProgram home') := by
  have hprogram := extends_javaProgram (ne_empty_of_canonicalize? hhome)
  have hprogram' := extends_javaProgram (ne_empty_of_canonicalize? hhome')
  rw [fileOf?, fileOf?, nodeOf?, nodeOf?, canonicalize?, canonicalize?,
    locate_behind hprogram hhome hplace hreach.program,
    locate_behind hprogram' hhome' hplace hreach'.program]

theorem release?_of_alias : release? fs home = release? fs home' := by
  have hrelease := extends_release (ne_empty_of_canonicalize? hhome)
  have hrelease' := extends_release (ne_empty_of_canonicalize? hhome')
  rw [release?, release?, readText, readText, readBytes, readBytes,
    locate_behind hrelease hhome hplace hreach.release,
    locate_behind hrelease' hhome' hplace hreach'.release]

theorem isValid_of_alias : isValid fs home = isValid fs home' := by
  rw [isValid, isValid, isDirectory, isDirectory, nodeOf?, nodeOf?, hhome, hhome', isFile, isFile,
    fileOf?_javaProgram_of_alias hhome hhome' hplace hreach hreach']

theorem versionText?_of_alias : versionText? fs home = versionText? fs home' := by
  rw [versionText?, versionText?, release?_of_alias hhome hhome' hplace hreach hreach',
    reportedVersion?, reportedVersion?, run?, run?,
    fileOf?_javaProgram_of_alias hhome hhome' hplace hreach hreach']

end Aliases

end JdkHome

/-! ## §2 Probes -/

namespace Probe

variable {fs : FileSystem} {home home' : String} {place : Location}

/-- A home is accepted if its version text writes a version. -/
theorem isSome_ofValid?_iff :
    (ofValid? fs home).isSome = true ↔ JdkHome.isValid fs home = true ∧
      ∃ text v, JdkHome.versionText? fs home = some text ∧ Version.parse? text.toList = some v := by
  constructor
  · intro h
    obtain ⟨probe, hprobe⟩ := Option.isSome_iff_exists.mp h
    have hreads := reads_of_ofValid? hprobe
    exact ⟨hreads.isValid, _, _, hreads.versionText, hreads.version⟩
  · rintro ⟨hvalid, text, v, hread, hparse⟩
    obtain ⟨place, hplace, -⟩ := JdkHome.exists_place_of_isValid hvalid
    have hhome : ¬ home.isEmpty = true := by
      simpa using JdkHome.ne_empty_of_canonicalize? hplace
    have htext : versionText? fs home none = some text := hread
    -- A version text that can be read has a name to suggest too.
    rw [ofValid?, if_pos hvalid, of?, if_neg hhome, htext, Option.bind_some, ofVersionText?, hparse]
    simp only [suggestName?, hparse]
    rfl

/-- All paths to a home are accepted alike, unless the way along one of them is cut short. -/
theorem isSome_ofValid?_of_alias (h : (ofValid? fs home).isSome = true)
    (hhome : fs.canonicalize? home = some place) (hhome' : fs.canonicalize? home' = some place)
    (hreach : JdkHome.WithinReach fs home) (hreach' : JdkHome.WithinReach fs home') :
    (ofValid? fs home').isSome = true := by
  obtain ⟨hvalid, text, v, hread, hparse⟩ := isSome_ofValid?_iff.mp h
  obtain ⟨_, hsame, hdirectory⟩ := JdkHome.exists_place_of_isValid hvalid
  cases hhome.symm.trans hsame
  refine isSome_ofValid?_iff.mpr ⟨?_, text, v, ?_, hparse⟩
  · rwa [← JdkHome.isValid_of_alias hhome hhome' hdirectory hreach hreach']
  · rwa [← JdkHome.versionText?_of_alias hhome hhome' hdirectory hreach hreach']

end Probe

end JdkFinder
