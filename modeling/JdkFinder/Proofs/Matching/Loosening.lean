import JdkFinder.Proofs.Matching.Listing

/-!
# Loosening a requirement

A requirement that accepts more finds at least as much: it resolves whenever the stricter one does,
from a source that is tried no later, and within the same source to a version that is no less
(`Requirement.Implies.resolves_no_worse`).

An outcome shows the version of a JDK as a text only, so the candidate behind an outcome is told by
a relation (`Requirement.ResolvesTo`), which holds of exactly one candidate if of any.
-/

namespace JdkFinder

variable {α : Type}

/-! ## §1 The chosen candidate -/

/-- A candidate that is chosen from a list is the one that a search of the list finds. -/
theorem Requirement.Chooses.bestMatch?_eq [Selectable α] {r : Requirement} {list : List α}
    {best : α} (h : r.Chooses list best) : r.bestMatch? list = some best := by
  obtain ⟨before, after, v, rfl, heligible, hle, hlt⟩ := h
  have hmem : best ∈ before ++ best :: after := by simp
  cases hbest : r.bestMatch? (before ++ best :: after) with
  | none => exact absurd heligible (bestMatch?_eq_none_iff.mp hbest best hmem v)
  | some other =>
    obtain ⟨front, back, w, hlist, heligible', hle', hlt'⟩ := chooses_of_bestMatch? hbest
    have hother : other ∈ before ++ best :: after := by
      rw [hlist]
      simp
    -- Each of the two is no less than the other one, so neither stands behind the other.
    have hvw : (Version.compare v w).isLE := hle' best hmem v heligible
    have hwv : (Version.compare w v).isLE := hle other hother w heligible'
    rcases List.append_eq_append_iff.mp hlist with ⟨gap, -, hback⟩ | ⟨gap, -, hback⟩
    · cases gap with
      | nil => exact congrArg some (List.cons.inj hback).1.symm
      | cons first gap =>
        have hafter : other ∈ after := by
          rw [(List.cons.inj hback).2]
          simp
        exact absurd (hlt other hafter w heligible') (Std.OrientedCmp.not_lt_of_isLE hvw)
    · cases gap with
      | nil => exact congrArg some (List.cons.inj hback).1
      | cons first gap =>
        have hafter : best ∈ back := by
          rw [(List.cons.inj hback).2]
          simp
        exact absurd (hlt' best hafter v heligible) (Std.OrientedCmp.not_lt_of_isLE hwv)

/-- The candidate is chosen from the first of the three lists that has an eligible one. -/
inductive Requirement.ResolvesTo (r : Requirement) (registered : List RegisteredJdk)
    (detected : List DetectedJdk) (catalog : List DownloadableJdk) : Candidate → Prop
  | registered {jdk : RegisteredJdk} (h : r.Chooses registered jdk) :
      ResolvesTo r registered detected catalog (.registered jdk)
  | detected {jdk : DetectedJdk} (hregistered : r.Declines registered)
      (h : r.Chooses detected jdk) : ResolvesTo r registered detected catalog (.detected jdk)
  | downloadable {jdk : DownloadableJdk} (hregistered : r.Declines registered)
      (hdetected : r.Declines detected) (h : r.Chooses catalog jdk) :
      ResolvesTo r registered detected catalog (.downloadable jdk)

/-- How late the source of a candidate is tried. -/
def Candidate.turn : Candidate → Nat
  | registered _ => 0
  | detected _ => 1
  | downloadable _ => 2

/-- The candidate comes from a source that is tried before that of the other one, or from the same
source and its version is no less. -/
inductive Candidate.NoWorse (candidate other : Candidate) : Prop
  | earlierSource (hturn : candidate.turn < other.turn)
  | sameSource {v w : Version} (hturn : candidate.turn = other.turn)
      (hversions : Selectable.version? other = some v ∧ Selectable.version? candidate = some w ∧
        (Version.compare v w).isLE)

section Resolving

variable {r s : Requirement} {registered : List RegisteredJdk} {detected : List DetectedJdk}
  {catalog : List DownloadableJdk}

/-- An outcome is made from the one candidate that the requirement resolves to. -/
theorem Requirement.resolve_eq_some_iff {outcome : Outcome} :
    r.resolve registered detected catalog = some outcome ↔
      ∃ chosen, r.ResolvesTo registered detected catalog chosen ∧ outcome = chosen.outcome := by
  constructor
  · intro h
    simp only [resolve, resolveLocal, resolveDownload] at h
    -- The source is the first whose list has something.
    cases hregistered : r.bestMatch? registered with
    | some jdk =>
      rw [hregistered] at h
      exact ⟨.registered jdk, .registered (chooses_of_bestMatch? hregistered),
        (Option.some.inj h).symm⟩
    | none =>
      have hdeclines := bestMatch?_eq_none_iff.mp hregistered
      rw [hregistered] at h
      cases hdetected : r.bestMatch? detected with
      | some jdk =>
        rw [hdetected] at h
        exact ⟨.detected jdk, .detected hdeclines (chooses_of_bestMatch? hdetected),
          (Option.some.inj h).symm⟩
      | none =>
        rw [hdetected] at h
        obtain ⟨jdk, hcatalog, rfl⟩ := Option.map_eq_some_iff.mp h
        exact ⟨.downloadable jdk, .downloadable hdeclines (bestMatch?_eq_none_iff.mp hdetected)
          (chooses_of_bestMatch? hcatalog), rfl⟩
  · rintro ⟨chosen, hchosen, rfl⟩
    cases hchosen with
    | registered h => simp only [resolve, resolveLocal, h.bestMatch?_eq, Candidate.outcome]
    | detected hregistered h =>
      simp only [resolve, resolveLocal, bestMatch?_eq_none_iff.mpr hregistered, h.bestMatch?_eq,
        Option.map_some, Candidate.outcome]
    | downloadable hregistered hdetected h =>
      simp only [resolve, resolveLocal, resolveDownload, bestMatch?_eq_none_iff.mpr hregistered,
        bestMatch?_eq_none_iff.mpr hdetected, h.bestMatch?_eq, Option.map_some, Option.map_none,
        Candidate.outcome]

theorem Requirement.declines_or_chooses [Selectable α] (r : Requirement) (list : List α) :
    r.Declines list ∨ ∃ best, r.Chooses list best := by
  cases hbest : r.bestMatch? list with
  | none => exact .inl (bestMatch?_eq_none_iff.mp hbest)
  | some best => exact .inr ⟨best, chooses_of_bestMatch? hbest⟩

/-! ## §2 Stricter and looser requirements -/

/-- Whatever version and vendor the one requirement accepts, the other accepts too. -/
def Requirement.Implies (r s : Requirement) : Prop :=
  ∀ v vendor, r.acceptsVersion v = true → r.acceptsVendor vendor = true →
    s.acceptsVersion v = true ∧ s.acceptsVendor vendor = true

namespace Requirement.Implies

section Lists

variable [Selectable α] {list : List α}

theorem eligible (h : r.Implies s) {candidate : α} {v : Version} (hr : r.Eligible candidate v) :
    s.Eligible candidate v := by
  obtain ⟨hversion, hvendor⟩ := h v _ hr.acceptsVersion hr.acceptsVendor
  exact ⟨hr.usable, hr.version, hversion, hvendor⟩

/-- From a list that has something for the stricter requirement, the looser one chooses a version
that is no less. -/
theorem exists_chooses (h : r.Implies s) {best : α} (hr : r.Chooses list best) :
    ∃ best' v w, s.Chooses list best' ∧ Selectable.version? best = some v ∧
      Selectable.version? best' = some w ∧ (Version.compare v w).isLE := by
  obtain ⟨before, after, v, hlist, heligible, -⟩ := hr
  have hmem : best ∈ list := by
    rw [hlist]
    simp
  rcases s.declines_or_chooses list with hdeclines | ⟨best', hchooses⟩
  · exact absurd (h.eligible heligible) (hdeclines best hmem v)
  · have ⟨_, _, w, _, heligible', hgreatest, _⟩ := hchooses
    exact ⟨best', v, w, hchooses, heligible.version, heligible'.version,
      hgreatest best hmem v (h.eligible heligible)⟩

end Lists

/-- What a looser requirement resolves to is no worse. -/
theorem exists_resolvesTo (h : r.Implies s) {chosen : Candidate}
    (hr : r.ResolvesTo registered detected catalog chosen) :
    ∃ chosen', s.ResolvesTo registered detected catalog chosen' ∧ chosen'.NoWorse chosen := by
  -- The looser requirement chooses from the same list, unless it has chosen from an earlier one.
  cases hr with
  | registered hjdk =>
    obtain ⟨jdk', v, w, hjdk', hversions⟩ := h.exists_chooses hjdk
    exact ⟨.registered jdk', .registered hjdk', .sameSource rfl hversions⟩
  | detected _ hjdk =>
    obtain ⟨jdk', v, w, hjdk', hversions⟩ := h.exists_chooses hjdk
    rcases s.declines_or_chooses registered with hregistered | ⟨earlier, hearlier⟩
    · exact ⟨.detected jdk', .detected hregistered hjdk', .sameSource rfl hversions⟩
    · exact ⟨.registered earlier, .registered hearlier, .earlierSource Nat.zero_lt_one⟩
  | downloadable _ _ hjdk =>
    obtain ⟨jdk', v, w, hjdk', hversions⟩ := h.exists_chooses hjdk
    rcases s.declines_or_chooses registered with hregistered | ⟨earlier, hearlier⟩
    · rcases s.declines_or_chooses detected with hdetected | ⟨earlier, hearlier⟩
      · exact ⟨.downloadable jdk', .downloadable hregistered hdetected hjdk',
          .sameSource rfl hversions⟩
      · exact ⟨.detected earlier, .detected hregistered hearlier,
          .earlierSource Nat.one_lt_two⟩
    · exact ⟨.registered earlier, .registered hearlier, .earlierSource Nat.zero_lt_two⟩

/-- Whenever a requirement resolves, a looser one does: each outcome is made from the candidate that
its requirement resolves to, and the candidate of the looser requirement is no worse. -/
theorem resolves_no_worse (h : r.Implies s) {outcome : Outcome}
    (hr : r.resolve registered detected catalog = some outcome) :
    ∃ chosen chosen', r.ResolvesTo registered detected catalog chosen ∧
      outcome = chosen.outcome ∧ s.ResolvesTo registered detected catalog chosen' ∧
      s.resolve registered detected catalog = some chosen'.outcome ∧ chosen'.NoWorse chosen := by
  obtain ⟨chosen, hchosen, houtcome⟩ := resolve_eq_some_iff.mp hr
  obtain ⟨chosen', hchosen', hnoWorse⟩ := h.exists_resolvesTo hchosen
  exact ⟨chosen, chosen', hchosen, houtcome, hchosen',
    resolve_eq_some_iff.mpr ⟨chosen', hchosen', rfl⟩, hnoWorse⟩

/-- A project that asks for Corretto 11 would get another build if it asked for any JDK from 11
on. -/
theorem later_build_for_looser :
    let corretto : DetectedJdk := ⟨"/corretto", "11.0.9", ⟨11, 0, 9, 0, 0, false⟩, "corretto-11",
      some .corretto⟩
    let temurin : DetectedJdk := ⟨"/temurin", "17.0.2", ⟨17, 0, 2, 0, 0, false⟩, "temurin-17",
      some .temurin⟩
    let r : Requirement := ⟨.major 11, some .corretto⟩
    let s : Requirement := ⟨.atLeast 11, none⟩
    r.Implies s ∧ r.resolve [] [corretto, temurin] [] = some (.localFix (.ofDetected corretto)) ∧
      ∃ chosen chosen', r.ResolvesTo [] [corretto, temurin] [] chosen ∧
        .localFix (.ofDetected corretto) = chosen.outcome ∧
        s.ResolvesTo [] [corretto, temurin] [] chosen' ∧
        s.resolve [] [corretto, temurin] [] = some chosen'.outcome ∧ chosen'.NoWorse chosen := by
  intro corretto temurin r s
  -- Whatever meets feature 11 of one vendor meets at least 11 of any.
  have himplies : r.Implies s := by
    intro v vendor hversion _
    have hfeature : v.feature = 11 := beq_iff_eq.mp hversion
    refine ⟨?_, rfl⟩
    show decide (11 ≤ v.feature) = true
    rw [hfeature]
    decide
  have hresolve : r.resolve [] [corretto, temurin] [] =
      some (.localFix (.ofDetected corretto)) := by
    decide
  exact ⟨himplies, hresolve, himplies.resolves_no_worse hresolve⟩

end Requirement.Implies

end Resolving

end JdkFinder
