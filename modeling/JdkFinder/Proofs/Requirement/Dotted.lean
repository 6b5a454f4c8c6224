import JdkFinder.Proofs.Requirement.SuggestedName

/-!
# Names that are dotted versions

A name that is a dotted version, such as `11.0.2`, accepts the versions that agree with it on the
numbers it writes, up to the four that a version has.  In the old numbering `1.8` and `1.8.0` accept
all of their release, and `1.8.0_292` one update of it
(`Requirement.dotted_name_fixes_written_numbers`).
-/

namespace JdkFinder

open Text Version

/-! ## §1 What dotted versions fix -/

/-- The version has these numbers in this order, as far as it has places for numbers. -/
def Version.HasNumbers (v : Version) (numbers : List UInt32) : Prop :=
  v.numbers.take (min numbers.length 4) = numbers.take (min numbers.length 4)

instance (v : Version) (numbers : List UInt32) : Decidable (v.HasNumbers numbers) :=
  inferInstanceAs (Decidable (_ = _))

/-- In the new numbering a version has the numbers that it is made of. -/
theorem hasNumbers_ofNumbers {first : UInt32} (hfirst : first ≠ 1) (rest : List UInt32) :
    (ofNumbers (first :: rest) none none false).HasNumbers (first :: rest) := by
  unfold HasNumbers
  match rest with
  | [] => rfl
  | [second] => simp [ofNumbers, hfirst, numbers]
  | [second, third] => simp [ofNumbers, hfirst, numbers]
  | second :: third :: fourth :: more => simp [ofNumbers, hfirst, numbers]

theorem agreesOn_ofNumbers_iff {first : UInt32} (hfirst : first ≠ 1) (rest : List UInt32)
    (v : Version) :
    agreesOn (rest.length + 1) v (ofNumbers (first :: rest) none none false) = true ↔
      v.HasNumbers (first :: rest) := by
  -- A version has four numbers, so that more of them are not compared.
  have hlength (w : Version) :
      w.numbers.take (rest.length + 1) = w.numbers.take (min (first :: rest).length 4) :=
    List.take_eq_take_min
  have hwritten := hasNumbers_ofNumbers hfirst rest
  unfold HasNumbers at hwritten ⊢
  rw [agreesOn, beq_iff_eq, hlength, hlength, hwritten]

theorem agreesOn_release_iff {v w : Version} : agreesOn 1 v w = true ↔ v.feature = w.feature := by
  simp [agreesOn, numbers]

theorem agreesOn_update_iff {v w : Version} : agreesOn 3 v w = true ↔
    v.feature = w.feature ∧ v.interim = w.interim ∧ v.update = w.update := by
  simp [agreesOn, numbers]

/-! ## §2 Names -/

namespace Requirement

/-- The name asks for no vendor, and it accepts the versions with a property and no others. -/
def MeansVersions (name : List Char) (p : Version → Prop) : Prop :=
  ∃ r, parse? name = some r ∧ r.vendor = none ∧ ∀ v, r.acceptsVersion v = true ↔ p v

/-- A name that is a dotted version has no other words. -/
theorem parse?_writeParts {numbers : List UInt32} (hnumbers : numbers ≠ [])
    (underscore : Option UInt32) :
    parse? (writeParts numbers underscore false) =
      (VersionSpec.parse? (writeParts numbers underscore false)).map (⟨·, none⟩) := by
  obtain ⟨c, cs, htext, hdigit⟩ := exists_writeParts_eq_cons hnumbers underscore false
  have hc : c ∈ writeParts numbers underscore false := by simp [htext]
  have hword : IsNameWord (writeParts numbers underscore false) :=
    isNameWord_of_dotted (by simp [htext]) fun d hd => isDottedChar_of_mem_writeParts hd
  have hclean : lowercase (trim (writeParts numbers underscore false)) =
      writeParts numbers underscore false := by
    rw [trim_eq_self hword.solid, lowercase_eq_self hword.lower]
  unfold parse?
  dsimp only
  rw [hclean, namedSpec?_eq_none hc hdigit, hword.nameWords_eq]
  dsimp only
  rw [splitWords_of_digit hword hc hdigit, List.intercalate_singleton]

theorem meansVersions_of_parse? {numbers : List UInt32} (hnumbers : numbers ≠ [])
    {underscore : Option UInt32} {spec : VersionSpec}
    (h : VersionSpec.parse? (writeParts numbers underscore false) = some spec)
    {p : Version → Prop} (hp : ∀ v, spec.accepts v = true ↔ p v) :
    MeansVersions (writeParts numbers underscore false) p :=
  ⟨⟨spec, none⟩, by rw [parse?_writeParts hnumbers, h, Option.map_some], rfl, hp⟩

theorem meansVersions_new {first : UInt32} (hfirst : 2 ≤ first ∧ first ≤ 99) (rest : List UInt32) :
    MeansVersions (writeParts (first :: rest) none false) (·.HasNumbers (first :: rest)) := by
  have hone : first ≠ 1 := by
    rintro rfl
    exact absurd hfirst.1 (by decide)
  have hfeature : isFeature first = true :=
    isFeature_iff.mpr ⟨UInt32.le_trans (by decide) hfirst.1, hfirst.2⟩
  cases rest with
  | nil =>
    -- A single number is a release, which has one number only.
    have hnumber := VersionSpec.parse?_number hfeature false
    rw [mark_false, List.append_nil] at hnumber
    refine meansVersions_of_parse? (by simp) hnumber fun v => ?_
    simp [VersionSpec.accepts, HasNumbers, numbers]
  | cons second rest =>
    refine meansVersions_of_parse? (by simp) (VersionSpec.parse?_newVersion hone hfeature) ?_
    exact agreesOn_ofNumbers_iff hone (second :: rest)

section Old

variable {release : UInt32}

theorem meansVersions_oldRelease (hfeature : isFeature release = true) :
    MeansVersions (writeParts [1, release] none false) (·.feature = release) := by
  have hrelease := VersionSpec.parse?_oldRelease hfeature false
  rw [mark_false, List.append_nil] at hrelease
  exact meansVersions_of_parse? (by simp) hrelease fun v => beq_iff_eq

theorem meansVersions_oldVersion (hfeature : isFeature release = true) {rest : List UInt32}
    (hrest : rest ≠ []) :
    MeansVersions (writeParts (1 :: release :: rest) none false) (·.feature = release) :=
  meansVersions_of_parse? (by simp) (VersionSpec.parse?_oldVersion hfeature (.inl hrest))
    fun _ => agreesOn_release_iff

theorem meansVersions_oldUpdate (hfeature : isFeature release = true) (rest : List UInt32)
    (update : UInt32) :
    MeansVersions (writeParts (1 :: release :: rest) (some update) false) fun v =>
      v.feature = release ∧ v.interim = 0 ∧ v.update = update :=
  meansVersions_of_parse? (by simp) (VersionSpec.parse?_oldVersion hfeature (.inr rfl))
    fun _ => agreesOn_update_iff

end Old

/-- A dotted version as a name fixes the numbers it writes, from the first to the fourth.  If it
starts with `1.`, it fixes the release that is the second number, and the update that is written
behind an underscore. -/
theorem dotted_name_fixes_written_numbers :
    (∀ (first : UInt32) (rest : List UInt32), 2 ≤ first → first ≤ 99 →
      MeansVersions (writeParts (first :: rest) none false) (·.HasNumbers (first :: rest))) ∧
    ∀ release third update : UInt32, 1 ≤ release → release ≤ 99 →
      ∀ numbers ∈ [[1, release], [1, release, third]],
        MeansVersions (writeParts numbers none false) (fun v => v.feature = release) ∧
        MeansVersions (writeParts numbers (some update) false) fun v =>
          v.feature = release ∧ v.interim = 0 ∧ v.update = update := by
  refine ⟨fun first rest htwo hlast => meansVersions_new ⟨htwo, hlast⟩ rest, ?_⟩
  intro release third update hone hlast numbers hnumbers
  have hfeature : isFeature release = true := isFeature_iff.mpr ⟨hone, hlast⟩
  simp only [List.mem_cons, List.not_mem_nil, or_false] at hnumbers
  -- With and without a third number the release is the second one.
  rcases hnumbers with rfl | rfl
  · exact ⟨meansVersions_oldRelease hfeature, meansVersions_oldUpdate hfeature [] update⟩
  · exact ⟨meansVersions_oldVersion hfeature (by simp),
      meansVersions_oldUpdate hfeature [third] update⟩

/-- `11.0.2` accepts 11.0.2+9 and 11.0.2.1, but not 11.0.20; and `1.8.0_292` accepts one update. -/
theorem meaning_of_11_0_2_and_1_8_0_292 :
    writeParts [11, 0, 2] none false = "11.0.2".toList ∧
    writeParts [1, 8, 0] (some 292) false = "1.8.0_292".toList ∧
    (2 ≤ (11 : UInt32) ∧ (11 : UInt32) ≤ 99 ∧ 1 ≤ (8 : UInt32) ∧ (8 : UInt32) ≤ 99) ∧
    (∃ r, parse? "11.0.2".toList = some r ∧ r.vendor = none ∧
      r.acceptsVersion ⟨11, 0, 2, 0, 9, false⟩ = true ∧
      r.acceptsVersion ⟨11, 0, 2, 1, 0, false⟩ = true ∧
      ¬ r.acceptsVersion ⟨11, 0, 20, 0, 0, false⟩ = true) ∧
    MeansVersions "1.8.0_292".toList fun v => v.feature = 8 ∧ v.interim = 0 ∧ v.update = 292 := by
  have hnew : writeParts [11, 0, 2] none false = "11.0.2".toList := by decide
  have hold : writeParts [1, 8, 0] (some 292) false = "1.8.0_292".toList := by decide
  obtain ⟨hnumbers, hrelease⟩ := dotted_name_fixes_written_numbers
  -- The new notation by the first half of the theorem, the old one with an update by the second.
  obtain ⟨r, hr, hvendor, haccepts⟩ := hnumbers 11 [0, 2] (by decide) (by decide)
  obtain ⟨-, hupdate⟩ := hrelease 8 0 292 (by decide) (by decide) [1, 8, 0] (by simp)
  rw [hnew] at hr
  rw [hold] at hupdate
  refine ⟨hnew, hold, by decide, ⟨r, hr, hvendor, ?_, ?_, ?_⟩, hupdate⟩
  · exact (haccepts _).mpr (by decide)
  · exact (haccepts _).mpr (by decide)
  · exact fun h => absurd ((haccepts _).mp h) (by decide)

end Requirement

end JdkFinder
