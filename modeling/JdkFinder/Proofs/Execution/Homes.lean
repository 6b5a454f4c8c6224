import JdkFinder.Probe
import JdkFinder.Proofs.Files.Walk

/-!
# Homes of JDKs when a file is written

What is known of the home of a JDK comes from two files, its program and its release file.  A file
that is neither of them can be written without a change to what is known (`Probe.of?_eq`).
-/

namespace JdkFinder

open FileSystem

/-! ## §1 Homes -/

namespace JdkHome

/-- A place is neither the program nor the release file of a home. -/
structure Apart (fs : FileSystem) (place : Location) (home : String) : Prop where
  program : fs.canonicalize? (javaProgram home) ≠ some place
  release : fs.canonicalize? (Path.join home "release") ≠ some place

variable {fs fs' : FileSystem} {place : Location} {home : String}

/-- A home stays one whatever file is written. -/
theorem isValid_after (hwritten : FileWritten place fs fs') (h : isValid fs home = true) :
    isValid fs' home = true := by
  obtain ⟨hdirectory, hfile⟩ := Bool.and_eq_true_iff.mp h
  rw [hwritten.isDirectory_eq] at hdirectory
  refine Bool.and_eq_true_iff.mpr ⟨hdirectory, ?_⟩
  by_cases hprogram : fs'.canonicalize? (javaProgram home) = some place
  · -- The program itself has been written, and is a file as it was.
    obtain ⟨file, hnode⟩ := hwritten.after
    rw [isFile, fileOf?, nodeOf?, hprogram, Option.bind_some, hnode]
    rfl
  · rwa [isFile, ← hwritten.fileOf?_eq hprogram]

section Apart

variable (hwritten : FileWritten place fs fs') (hapart : Apart fs' place home)
include hwritten hapart

theorem isValid_eq : isValid fs home = isValid fs' home := by
  rw [isValid, isValid, hwritten.isDirectory_eq, isFile, isFile,
    hwritten.fileOf?_eq hapart.program]

theorem release?_eq : release? fs home = release? fs' home := by
  rw [release?, release?, toOption_readText, toOption_readText,
    hwritten.fileOf?_eq hapart.release]

theorem reportedVersion?_eq : reportedVersion? fs home = reportedVersion? fs' home := by
  rw [reportedVersion?, reportedVersion?, run?, run?, hwritten.fileOf?_eq hapart.program]

theorem versionText?_eq : versionText? fs home = versionText? fs' home := by
  rw [versionText?, versionText?, release?_eq hwritten hapart, reportedVersion?_eq hwritten hapart]

theorem implementor?_eq : implementor? fs home = implementor? fs' home := by
  rw [implementor?, implementor?, release?_eq hwritten hapart]

end Apart

end JdkHome

/-! ## §2 Probes -/

namespace Probe

variable {fs fs' : FileSystem} {place : Location} {home : String} {probe : Probe}

/-- What a probe tells is what is read in a home. -/
structure Reads (fs : FileSystem) (home : String) (probe : Probe) : Prop where
  isValid : JdkHome.isValid fs home = true
  nonempty : home.isEmpty = false
  home_eq : probe.home = home
  versionText : JdkHome.versionText? fs home = some probe.versionText
  version : Version.parse? probe.versionText.toList = some probe.version
  vendor : probe.vendor = vendor? fs home probe.versionText

theorem reads_of_ofValid? (h : ofValid? fs home = some probe) : Reads fs home probe := by
  obtain ⟨hvalid, hprobe⟩ := Option.ite_none_right_eq_some.mp h
  obtain ⟨hhome, hbound⟩ := Option.ite_none_left_eq_some.mp hprobe
  obtain ⟨text, hread, htext⟩ := Option.bind_eq_some_iff.mp hbound
  obtain ⟨v, hv, hname⟩ := Option.bind_eq_some_iff.mp htext
  obtain ⟨name, -, hall⟩ := Option.bind_eq_some_iff.mp hname
  cases hall
  exact ⟨hvalid, Bool.not_eq_true _ ▸ hhome, rfl, hread, hv, rfl⟩

theorem vendor?_eq (hwritten : FileWritten place fs fs') (hapart : JdkHome.Apart fs' place home)
    (text : String) : vendor? fs home text = vendor? fs' home text := by
  rw [vendor?, vendor?, JdkHome.implementor?_eq hwritten hapart]

/-- The probe of a home is the same before and after a file is written that is no part of it. -/
theorem of?_eq (hwritten : FileWritten place fs fs') (hapart : JdkHome.Apart fs' place home)
    (declared : Option String) : of? fs home declared = of? fs' home declared := by
  have htext : versionText? fs home declared = versionText? fs' home declared := by
    rw [versionText?, versionText?, JdkHome.versionText?_eq hwritten hapart]
  have hprobe : ofVersionText? fs home = ofVersionText? fs' home := by
    funext text
    rw [ofVersionText?, ofVersionText?, vendor?_eq hwritten hapart]
  rw [of?, of?, htext, hprobe]

end Probe

end JdkFinder
