import JdkFinder.Proofs.Files.Walk
import JdkFinder.Proofs.Matching.Selection
import JdkFinder.Proofs.Version.RoundTrip
import JdkFinder.Requirement.Parser
import JdkFinder.Scan

/-!
# The version text of a proposal

A proposal carries the version of its JDK as text.  What the text reads as meets the requirement as
well, with one exception: up to release 8 the text leaves out the interim and patch numbers, and a
rule may fix them.
-/

namespace JdkFinder

/-! ## §1 Rules and written versions -/

/-- The rule fixes a number that the written form of a version up to release 8 leaves out. -/
def VersionSpec.FixesUnwritten : VersionSpec → Prop
  | leading version segments =>
    (2 ≤ segments ∧ version.interim ≠ 0) ∨ (4 ≤ segments ∧ version.patch ≠ 0)
  | _ => False

/-- A version that agrees with another one on some numbers still does so when it is written, unless
one of these numbers is left out. -/
theorem Version.agreesOn_written {v w : Version} {segments : Nat} (hold : v.feature ≤ 8)
    (h : agreesOn segments v w = true) :
    agreesOn segments v.written w = true ↔
      ¬ ((2 ≤ segments ∧ w.interim ≠ 0) ∨ (4 ≤ segments ∧ w.patch ≠ 0)) := by
  rw [written_of_old hold]
  -- There are four numbers, so what counts is how many of them are fixed.
  match segments with
  | 0 => simp [agreesOn]
  | 1 => simp_all [agreesOn, numbers]
  | 2 =>
    simp_all [agreesOn, numbers]
    exact eq_comm
  | 3 =>
    simp_all [agreesOn, numbers]
    exact eq_comm
  | n + 4 =>
    simp_all [agreesOn, numbers]
    exact and_congr eq_comm eq_comm

/-- All rules but those that fix numbers look at the feature release only. -/
theorem VersionSpec.accepts_eq_of_feature {spec : VersionSpec} {v w : Version}
    (hspec : ∀ version segments, spec ≠ .leading version segments) (h : w.feature = v.feature) :
    spec.accepts w = spec.accepts v := by
  cases spec with
  | leading version segments => exact absurd rfl (hspec version segments)
  | longTerm => simp only [accepts, Version.isLongTerm, h]
  | major feature => simp only [accepts, h]
  | atLeast feature => simp only [accepts, h]
  | range first last => simp only [accepts, h]
  | latest => rfl

theorem VersionSpec.accepts_written {spec : VersionSpec} {v : Version}
    (h : spec.accepts v = true) :
    spec.accepts v.written = true ↔ (v.feature ≤ 8 → ¬ spec.FixesUnwritten) := by
  by_cases hleading : ∃ version segments, spec = .leading version segments
  · obtain ⟨version, segments, rfl⟩ := hleading
    by_cases hold : v.feature ≤ 8
    · simp only [hold, true_implies]
      exact Version.agreesOn_written hold h
    · -- From release 9 on all numbers are written.
      have hnumbers : v.written.numbers = v.numbers := by
        rw [Version.written_of_new hold]
        rfl
      have haccepts : accepts (.leading version segments) v.written = true := by
        rw [accepts, Version.agreesOn, hnumbers]
        exact h
      exact iff_of_true haccepts fun hold' => absurd hold' hold
  · have hspec : ∀ version segments, spec ≠ .leading version segments :=
      fun version segments heq => hleading ⟨version, segments, heq⟩
    have haccepts : spec.accepts v.written = true :=
      (accepts_eq_of_feature hspec v.written_feature).trans h
    refine iff_of_true haccepts fun _ hfixes => ?_
    cases spec with
    | leading version segments => exact hspec version segments rfl
    | _ => exact hfixes

/-! ## §2 Proposals -/

/-- The version of a JDK was read off some text. -/
def Version.IsRead (v : Version) : Prop :=
  ∃ text, parse? text = some v

/-- A proposal is made from an accepted JDK of one of the two lists. -/
theorem Requirement.exists_of_resolveLocal {r : Requirement} {registered : List RegisteredJdk}
    {detected : List DetectedJdk} {fix : LocalFix}
    (h : r.resolveLocal registered detected = some fix) :
    (∃ jdk ∈ registered, r.acceptsVersion jdk.version = true ∧ fix = .ofRegistered jdk) ∨
      ∃ jdk ∈ detected, r.acceptsVersion jdk.version = true ∧ fix = .ofDetected jdk := by
  unfold resolveLocal at h
  split at h
  · -- The table is asked first.
    rename_i jdk hjdk
    obtain ⟨before, after, v, hlist, heligible, -⟩ := chooses_of_bestMatch? hjdk
    have hversion : jdk.version = v := Option.some.inj heligible.version
    refine .inl ⟨jdk, by rw [hlist]; simp, ?_, (Option.some.inj h).symm⟩
    rw [hversion]
    exact heligible.acceptsVersion
  · -- It declined, and the scanned homes are asked.
    obtain ⟨jdk, hjdk, hfix⟩ := Option.map_eq_some_iff.mp h
    obtain ⟨before, after, v, hlist, heligible, -⟩ := chooses_of_bestMatch? hjdk
    have hversion : jdk.version = v := Option.some.inj heligible.version
    refine .inr ⟨jdk, by rw [hlist]; simp, ?_, hfix.symm⟩
    rw [hversion]
    exact heligible.acceptsVersion

/-- The version text of a proposal can be read, and what it reads as is accepted, except if the
release is 8 or below and a number is fixed that the text leaves out. -/
theorem Requirement.version_text_accepted (r : Requirement) {registered : List RegisteredJdk}
    {detected : List DetectedJdk} {fix : LocalFix}
    (hregistered : ∀ jdk ∈ registered, jdk.version.IsRead)
    (hdetected : ∀ jdk ∈ detected, jdk.version.IsRead)
    (h : r.resolveLocal registered detected = some fix) :
    ∃ w, Version.parse? fix.versionText.toList = some w ∧
      (r.acceptsVersion w = true ↔ (w.feature ≤ 8 → ¬ r.version.FixesUnwritten)) := by
  -- Wherever the JDK comes from, the text that is shown is that of its version.
  have hchosen : ∃ v : Version, v.IsRead ∧ r.acceptsVersion v = true ∧
      fix.versionText = toString v := by
    rcases exists_of_resolveLocal h with ⟨jdk, hmem, haccepts, rfl⟩ | ⟨jdk, hmem, haccepts, rfl⟩
    · exact ⟨jdk.version, hregistered jdk hmem, haccepts, rfl⟩
    · exact ⟨jdk.version, hdetected jdk hmem, haccepts, rfl⟩
  obtain ⟨v, ⟨text, hread⟩, haccepts, htext⟩ := hchosen
  have hfeature := Version.isFeature_of_parse? hread
  refine ⟨v.written, ?_, ?_⟩
  · have htoList : (toString v : String).toList = v.format := String.toList_ofList
    rw [htext, htoList]
    exact Version.parse?_format_self hfeature
  · have hwritten := VersionSpec.accepts_written haccepts
    rw [Version.written_feature]
    exact hwritten

/-- The text of a build of Java 17 has all that a rule on Java 17 can fix. -/
theorem Requirement.text_of_17_accepted :
    let jdk : DetectedJdk := ⟨"/jdk", "17.0.2+8", ⟨17, 0, 2, 0, 8, false⟩, "17", none⟩
    let r : Requirement := ⟨.leading ⟨17, 0, 2, 0, 0, false⟩ 3, none⟩
    jdk.version.IsRead ∧ r.resolveLocal [] [jdk] = some ⟨"/jdk", "17.0.2", "17", .detected⟩ ∧
      ∃ w, Version.parse? "17.0.2".toList = some w ∧
        (r.acceptsVersion w = true ↔ (w.feature ≤ 8 → ¬ r.version.FixesUnwritten)) := by
  intro jdk r
  have hread : jdk.version.IsRead := ⟨"17.0.2+8".toList, by decide⟩
  have hfix : r.resolveLocal [] [jdk] = some ⟨"/jdk", "17.0.2", "17", .detected⟩ := by
    decide
  refine ⟨hread, hfix, r.version_text_accepted (by simp) ?_ hfix⟩
  intro other hother
  cases List.mem_singleton.mp hother
  exact hread

/-- Where there are no files there is no release file. -/
theorem JdkHome.release?_of_empty : release? ⟨[], []⟩ "/jdk" = none := by
  have hjoin : Path.join "/jdk" "release" = "/jdk/release" := by decide
  have hname : FileSystem.IsName "jdk" := by decide
  have hmissing : FileSystem.canonicalize? ⟨[], []⟩ "/jdk/release" = none :=
    FileSystem.canonicalize?_eq_none rfl (ite_self []) hname rfl
  rw [release?, FileSystem.toOption_readText, hjoin, FileSystem.fileOf?, FileSystem.nodeOf?,
    hmissing]
  rfl

/-- The name `8.1` fixes the interim number, which the text of Java 8.1 leaves out. -/
theorem Requirement.text_of_8_1_rejected :
    let fs : FileSystem := ⟨[], []⟩
    ∃ r probe fix w, Requirement.parse? "8.1".toList = some r ∧
      Probe.of? fs "/jdk" (some "8.1") = some probe ∧
      r.resolveLocal [] [Scanner.detectedJdk probe] = some fix ∧
      Version.parse? fix.versionText.toList = some w ∧ r.acceptsVersion w = false := by
  intro fs
  -- The home is empty, so it tells neither a vendor nor another version.
  have himplementor : JdkHome.implementor? fs "/jdk" = none := by
    rw [JdkHome.implementor?, JdkHome.release?_of_empty]
    rfl
  have hvendor : Probe.vendor? fs "/jdk" "8.1" = none := by
    rw [Probe.vendor?, himplementor]
    decide
  have htext : Probe.versionText? fs "/jdk" (some "8.1") = some "8.1" := by decide
  have hprobe : Probe.of? fs "/jdk" (some "8.1") =
      some ⟨"/jdk", "8.1", ⟨8, 1, 0, 0, 0, false⟩, "1.8", none⟩ := by
    rw [Probe.of?, htext]
    simp only [Option.bind_some, Probe.ofVersionText?, hvendor]
    decide
  refine ⟨⟨.leading ⟨8, 1, 0, 0, 0, false⟩ 2, none⟩, _, ⟨"/jdk", "1.8.0", "1.8", .detected⟩,
    ⟨8, 0, 0, 0, 0, false⟩, ?_, hprobe, ?_, ?_, ?_⟩
  all_goals decide +kernel

end JdkFinder
