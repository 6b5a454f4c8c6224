import JdkFinder.Proofs.Version.RoundTrip

/-!
# Written versions in free texts

A written version is found wherever it stands in a text, as long as no digit stands before it and
what follows does not read on as a part of it (`Version.found_in_text`).  A build number may follow
after a plus sign, and it is the only part of a version that has to be added to its written form.
-/

namespace JdkFinder.Version

open Text

/-! ## §1 What follows a version -/

/-- A text that does not go on with a version: it starts with no character that could stand in one
next. -/
def EndsVersion (post : List Char) : Prop :=
  ∀ c ∈ post.head?, isDigit c = false ∧ c ∉ ['.', '_', '-', '+']

/-- A build number behind its sign. -/
def buildSuffix (build : UInt32) : List Char :=
  '+' :: decimal build.toNat

theorem EndsVersion.follows {post : List Char} (h : EndsVersion post) : Follows post := by
  intro c hc
  obtain ⟨hdigit, hsign⟩ := h c hc
  simp only [List.mem_cons, List.not_mem_nil, or_false, not_or] at hsign
  obtain ⟨hdot, hunderscore, hhyphen, -⟩ := hsign
  exact ⟨hdigit, hdot, hunderscore, hhyphen⟩

theorem EndsVersion.takeBuild_eq_none {post : List Char} (h : EndsVersion post) :
    takeBuild post = none := by
  have hplus : ∀ c ∈ post.head?, c ≠ '+' := by
    rintro c hc rfl
    exact (h '+' hc).2 (by simp)
  have hhyphen : ∀ c ∈ post.head?, c ≠ '-' := by
    rintro c hc rfl
    exact (h '-' hc).2 (by simp)
  rw [takeBuild, takeSigned?_eq_none hplus, takeSigned?_eq_none hhyphen]
  rfl

theorem follows_buildSuffix (build : UInt32) (post : List Char) :
    Follows (buildSuffix build ++ post) := by
  intro c hc
  cases hc
  decide

theorem EndsVersion.takeBuild_buildSuffix {post : List Char} (h : EndsVersion post)
    (build : UInt32) : takeBuild (buildSuffix build ++ post) = some (decimal build.toNat) := by
  have hdigits : takeSigned? ['+'] (buildSuffix build ++ post) =
      some (decimal build.toNat, post) :=
    takeSigned?_run (isRun_decimal build.toNat) fun c hc => (h c hc).1
  rw [takeBuild, hdigits]
  rfl

/-! ## §2 Versions in texts -/

section Found

variable {v : Version} {pre post : List Char}

/-- What is found is what the written form says. -/
theorem parse?_inside (hfeature : isFeature v.feature = true)
    (hpre : ∀ c ∈ pre, isDigit c = false) (hpost : EndsVersion post) :
    parse? (pre ++ v.format ++ post) = some v.written := by
  have hbuild : takeBuild post = (none : Option UInt32).map (decimal ·.toNat) :=
    hpost.takeBuild_eq_none
  have hwritten : { v.written with build := (none : Option UInt32).getD 0 } = v.written := by
    rw [Option.getD_none, ← written_build v]
  rw [List.append_assoc, parse?_format hfeature hpre hpost.follows hbuild, hwritten]

/-- With its build number behind it, the version is found with that number. -/
theorem parse?_inside_build (hfeature : isFeature v.feature = true)
    (hpre : ∀ c ∈ pre, isDigit c = false) (hpost : EndsVersion post) (build : UInt32) :
    parse? (pre ++ v.format ++ buildSuffix build ++ post) = some { v.written with build } := by
  have hbuild : takeBuild (buildSuffix build ++ post) =
      (some build).map (decimal ·.toNat) :=
    hpost.takeBuild_buildSuffix build
  rw [List.append_assoc, List.append_assoc,
    parse?_format hfeature hpre (follows_buildSuffix build post) hbuild, Option.getD_some]

/-- A version that is written into a text is found there: all of it but the build number, which may
be added behind, if no number gets lost; else without the numbers that are not written up to
release 8.  Either way the version found is written as the one that was put there. -/
theorem found_in_text (hfeature : 1 ≤ v.feature ∧ v.feature ≤ 99)
    (hpre : ∀ c ∈ pre, isDigit c = false) (hpost : EndsVersion post) :
    (v.KeepsNumbers →
      parse? (pre ++ v.format ++ post) = some { v with build := 0 } ∧
      parse? (pre ++ v.format ++ buildSuffix v.build ++ post) = some v) ∧
    (v.feature ≤ 8 →
      parse? (pre ++ v.format ++ post) = some { v with interim := 0, patch := 0, build := 0 }) ∧
    (parse? (pre ++ v.format ++ post)).map format = some v.format := by
  have hrange : isFeature v.feature = true := isFeature_iff.mpr hfeature
  have hfound := parse?_inside hrange hpre hpost
  refine ⟨fun hkeeps => ⟨?_, ?_⟩, fun hold => ?_, ?_⟩
  · rw [hfound, written_eq hkeeps]
  · rw [parse?_inside_build hrange hpre hpost, written_eq hkeeps]
  · rw [hfound, written_of_old hold]
  · rw [hfound, Option.map_some, format_written]

end Found

/-- The early-access build 7 of Java 17.0.2 in what a program prints about itself. -/
theorem found_in_announcement :
    let v : Version := ⟨17, 0, 2, 0, 7, true⟩
    let pre := "openjdk version \"".toList
    let post := "\" 2022-01-18".toList
    (1 ≤ v.feature ∧ v.feature ≤ 99) ∧ (∀ c ∈ pre, isDigit c = false) ∧ EndsVersion post ∧
      v.KeepsNumbers ∧
      parse? (pre ++ v.format ++ post) = some ⟨17, 0, 2, 0, 0, true⟩ ∧
      parse? (pre ++ v.format ++ buildSuffix v.build ++ post) = some v ∧
      (parse? (pre ++ v.format ++ post)).map format = some v.format := by
  intro v pre post
  have hfeature : 1 ≤ v.feature ∧ v.feature ≤ 99 := by decide
  -- No digit stands before the version, and the text behind it does not go on with it.
  have hpre : ∀ c ∈ pre, isDigit c = false := forall_of_all (by decide)
  have hpost : EndsVersion post := by
    intro c hc
    cases hc
    decide
  have hkeeps : v.KeepsNumbers := .inl (by decide)
  obtain ⟨hnew, -, hformat⟩ := found_in_text hfeature hpre hpost
  obtain ⟨hplain, hbuild⟩ := hnew hkeeps
  exact ⟨hfeature, hpre, hpost, hkeeps, hplain, hbuild, hformat⟩

end JdkFinder.Version
