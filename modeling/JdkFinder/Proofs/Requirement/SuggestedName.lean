import JdkFinder.Proofs.Requirement.NameWords
import JdkFinder.Proofs.Requirement.Rule
import JdkFinder.SuggestedName

/-!
# Suggested names as requirements

The name that is suggested for a JDK asks for the release of that JDK, and for its vendor if the
vendor takes part in the name (`Requirement.suggested_name_resolves_back`).

A suggested name has up to three words with hyphens between them: the vendor's, the label of the
release, and the early-access mark.  The reader of requirements takes it apart at the hyphens, finds
the vendor by its word, and reads the label as a release.
-/

namespace JdkFinder

open Text

/-! ## §1 Labels -/

namespace Version

theorem label_eq (v : Version) :
    v.label = writeParts (if v.feature ≤ 8 then [1, v.feature] else [v.feature]) none false := by
  have hone : decimal (1 : UInt32).toNat = ['1'] := rfl
  by_cases hold : v.feature ≤ 8
  · rw [label, if_pos hold, if_pos hold, writeParts, List.map_cons, List.map_cons, List.map_nil,
      dotted_cons, dotted_singleton, hone]
    simp
  · rw [label, if_neg hold, if_neg hold, writeParts, List.map_cons, List.map_nil, dotted_singleton]
    simp

theorem exists_label_eq_cons (v : Version) : ∃ c cs, v.label = c :: cs ∧ c.isDigit = true := by
  rw [label_eq]
  refine exists_writeParts_eq_cons ?_ none false
  split <;> simp

end Version

/-! ## §2 The words of a name -/

/-- A word of a suggested name: nothing in it has to be cleaned up, and no hyphen splits it. -/
structure IsNameWord (word : List Char) : Prop where
  ne_nil : word ≠ []
  noHyphen : '-' ∉ word
  lower : ∀ c ∈ word, IsLowerAscii c
  solid : ∀ c ∈ word, isBlank c = false

/-- Each character is looked at: there are too many of them to try all that could be in the word. -/
instance (word : List Char) : Decidable (IsNameWord word) :=
  decidable_of_iff (word ≠ [] ∧ '-' ∉ word ∧
      word.all (fun c => decide (IsLowerAscii c) && !isBlank c) = true) <| by
    constructor
    · rintro ⟨hne, hhyphen, hall⟩
      simp only [List.all_eq_true, Bool.and_eq_true, decide_eq_true_eq, Bool.not_eq_true'] at hall
      exact ⟨hne, hhyphen, fun c hc => (hall c hc).1, fun c hc => (hall c hc).2⟩
    · rintro ⟨hne, hhyphen, hlower, hsolid⟩
      refine ⟨hne, hhyphen, List.all_eq_true.mpr fun c hc => ?_⟩
      simp only [hlower c hc, hsolid c hc, decide_true, Bool.not_false, Bool.and_self]

theorem isNameWord_id (vendor : Vendor) : IsNameWord vendor.id.toList := by
  cases vendor <;> decide

theorem isNameWord_early : IsNameWord ['e', 'a'] := by
  decide

/-- A dotted version is a word. -/
theorem isNameWord_of_dotted {word : List Char} (hne : word ≠ [])
    (h : ∀ c ∈ word, isDottedChar c = true) : IsNameWord word where
  ne_nil := hne
  noHyphen := fun hmem => absurd (h _ hmem) (by decide)
  lower c hc := isLowerAscii_of_isRuleChar (isRuleChar_of_isDottedChar (h c hc))
  solid c hc := isBlank_of_isRuleChar (isRuleChar_of_isDottedChar (h c hc))

theorem isNameWord_label (v : Version) : IsNameWord v.label := by
  obtain ⟨c, cs, hlabel, -⟩ := v.exists_label_eq_cons
  refine isNameWord_of_dotted (by simp [hlabel]) fun d hd => ?_
  rw [Version.label_eq] at hd
  exact Version.isDottedChar_of_mem_writeParts hd

/-- The label of the release, and the early-access mark if there is one. -/
def Version.releaseWords (v : Version) : List (List Char) :=
  v.label :: if v.early then [['e', 'a']] else []

/-- The words of the name that is suggested for a version, with the vendor to be named. -/
def Version.wordsFor (v : Version) (vendor : Option Vendor) : List (List Char) :=
  vendor.toList.map (·.id.toList) ++ v.releaseWords

theorem Version.intercalate_releaseWords (v : Version) :
    ['-'].intercalate v.releaseWords = v.label ++ mark v.early := by
  cases hearly : v.early with
  | true => simp [releaseWords, hearly, List.intercalate_cons_cons]
  | false => simp [releaseWords, hearly]

theorem Version.nameFor_eq (v : Version) (vendor : Option Vendor) :
    v.nameFor vendor = ['-'].intercalate (v.wordsFor (vendor.filter (·.isNamed))) := by
  -- The name is the joined words, with a word in front if the vendor is named.
  have hplain : ['-'].intercalate (v.wordsFor none) = v.label ++ mark v.early :=
    v.intercalate_releaseWords
  have hnamed (u : Vendor) : ['-'].intercalate (v.wordsFor (some u)) =
      u.id.toList ++ '-' :: v.label ++ mark v.early := by
    have hsplit : v.wordsFor (some u) = u.id.toList :: v.releaseWords := rfl
    have hcons : ∃ word words, v.releaseWords = word :: words := ⟨_, _, rfl⟩
    obtain ⟨word, words, hwords⟩ := hcons
    rw [hsplit, hwords, List.intercalate_cons_cons, ← hwords, intercalate_releaseWords]
    simp
  cases vendor with
  | none => exact hplain.symm
  | some u =>
    rw [Option.filter_some]
    cases hu : u.isNamed with
    | true =>
      rw [if_pos rfl, hnamed]
      simp [nameFor, hu, mark]
    | false =>
      rw [if_neg Bool.false_ne_true, hplain]
      simp [nameFor, hu, mark]

theorem Version.isNameWord_of_mem {v : Version} {vendor : Option Vendor} {word : List Char}
    (h : word ∈ v.wordsFor vendor) : IsNameWord word := by
  rcases List.mem_append.mp h with hid | hrelease
  · obtain ⟨u, -, rfl⟩ := List.mem_map.mp hid
    exact isNameWord_id u
  · rcases List.mem_cons.mp hrelease with rfl | hearly
    · exact isNameWord_label v
    · split at hearly
      · rw [List.mem_singleton.mp hearly]
        exact isNameWord_early
      · cases hearly

/-! ## §3 Names are taken apart -/

section Words

variable {words : List (List Char)}

theorem isLowerAscii_of_mem_name (hwords : ∀ word ∈ words, IsNameWord word) :
    ∀ c ∈ ['-'].intercalate words, IsLowerAscii c := by
  intro c hc
  rcases cases_of_mem_intercalate hc with rfl | ⟨word, hword, hc⟩
  · decide
  · exact (hwords word hword).lower c hc

theorem isBlank_of_mem_name (hwords : ∀ word ∈ words, IsNameWord word) :
    ∀ c ∈ ['-'].intercalate words, isBlank c = false := by
  intro c hc
  rcases cases_of_mem_intercalate hc with rfl | ⟨word, hword, hc⟩
  · decide
  · exact (hwords word hword).solid c hc

theorem IsNameWord.nameWords_eq {word : List Char} (h : IsNameWord word) :
    nameWords word = [word] := by
  refine nameWords_of_word h.ne_nil fun c hc => ?_
  have hhyphen : c ≠ '-' := fun heq => h.noHyphen (heq ▸ hc)
  rw [isSeparator, h.solid c hc, Bool.false_or, beq_eq_false_iff_ne]
  exact hhyphen

/-- A name that is put together from words has these words. -/
theorem nameWords_intercalate (hwords : ∀ word ∈ words, IsNameWord word) :
    nameWords (['-'].intercalate words) = words := by
  induction words with
  | nil => rfl
  | cons first rest ih =>
    have hfirst : nameWords first = [first] := (hwords first List.mem_cons_self).nameWords_eq
    have hothers := ih fun word hword => hwords word (List.mem_cons_of_mem first hword)
    cases rest with
    | nil => rwa [List.intercalate_singleton]
    | cons next rest =>
      rw [List.intercalate_cons_cons, List.append_assoc, List.singleton_append,
        nameWords_append_cons isSeparator_hyphen, hfirst, hothers, List.singleton_append]

end Words

/-- A word with a digit belongs to the version. -/
theorem splitWords_of_digit {word : List Char} (hword : IsNameWord word) {c : Char} (hc : c ∈ word)
    (hdigit : c.isDigit = true) (vendor : Option Vendor) (rest : List (List Char)) :
    splitWords vendor (word :: rest) = (vendor, word :: rest) := by
  -- A digit is in no noise word and no alias, so a word with one starts the version.
  have hnoise : noiseWords.contains word = false := by
    rw [Bool.eq_false_iff]
    intro hmem
    have hnot := noDigit_of_mem_noiseWords (List.contains_iff_mem.mp hmem) c hc
    rw [isDigit_of_ascii hdigit] at hnot
    cases hnot
  have halias : Vendor.ofAlias? word = none := by
    rw [Vendor.ofAlias?, trim_eq_self hword.solid, lowercase_eq_self hword.lower]
    refine List.find?_eq_none.mpr fun vendor _ hany => ?_
    obtain ⟨other, hother, heq⟩ := List.any_eq_true.mp hany
    have hnot := noDigit_of_mem_aliases hother c ((beq_iff_eq.mp heq) ▸ hc)
    rw [isDigit_of_ascii hdigit] at hnot
    cases hnot
  rw [splitWords, hnoise, halias]
  rfl

/-- The vendor's word is found, unless it is one without meaning. -/
theorem splitWords_id {vendor : Vendor} (h : vendor.isNamed = true) (rest : List (List Char)) :
    splitWords none (vendor.id.toList :: rest) = splitWords (some vendor) rest := by
  have hnoise : noiseWords.contains vendor.id.toList = false := by
    revert h
    cases vendor <;> decide
  have halias : Vendor.ofAlias? vendor.id.toList = some vendor := by
    cases vendor <;> decide
  rw [splitWords, hnoise, halias]
  rfl

theorem splitWords_wordsFor {v : Version} {vendor : Option Vendor}
    (h : ∀ u ∈ vendor, u.isNamed = true) :
    splitWords none (v.wordsFor vendor) = (vendor, v.releaseWords) := by
  obtain ⟨c, cs, hlabel, hdigit⟩ := v.exists_label_eq_cons
  have hc : c ∈ v.label := by simp [hlabel]
  have hrelease (vendor : Option Vendor) :
      splitWords vendor v.releaseWords = (vendor, v.releaseWords) :=
    splitWords_of_digit (isNameWord_label v) hc hdigit vendor _
  cases vendor with
  | none => exact hrelease none
  | some u =>
    have hfirst : v.wordsFor (some u) = u.id.toList :: v.releaseWords := rfl
    rw [hfirst, splitWords_id (h u rfl), hrelease]

/-- A label asks for its release. -/
theorem VersionSpec.parse?_label {v : Version} (hfeature : Version.isFeature v.feature = true) :
    VersionSpec.parse? (v.label ++ Version.mark v.early) = some (.major v.feature) := by
  rw [Version.label_eq]
  -- Up to release 8 the label is a release in the old numbering, after that a number.
  by_cases hold : v.feature ≤ 8
  · rw [if_pos hold, parse?_oldRelease hfeature]
  · rw [if_neg hold, parse?_number hfeature]

/-! ## §4 Suggested names -/

/-- No rule with a name of its own has a digit in that name. -/
theorem namedSpec?_eq_none {text : List Char} {c : Char} (hc : c ∈ text)
    (hdigit : c.isDigit = true) : namedSpec? text = none := by
  have hne (other : List Char) (hother : ∀ d ∈ other, d.isDigit = false) : text ≠ other := by
    rintro rfl
    rw [hother c hc] at hdigit
    cases hdigit
  unfold namedSpec?
  rw [if_neg, if_neg]
  · rintro (h | h)
    · exact hne _ (forall_of_all (by decide)) h
    · exact hne _ (forall_of_all (by decide)) h
  · rintro (h | h)
    · exact hne _ (forall_of_all (by decide)) h
    · exact hne _ (forall_of_all (by decide)) h

namespace Requirement

/-- The name for a version and a vendor asks for the release, and for the vendor if it is named. -/
theorem parse?_nameFor {v : Version} (hfeature : Version.isFeature v.feature = true)
    (vendor : Option Vendor) :
    parse? (v.nameFor vendor) = some ⟨.major v.feature, vendor.filter (·.isNamed)⟩ := by
  have hwords : ∀ word ∈ v.wordsFor (vendor.filter (·.isNamed)), IsNameWord word :=
    fun word hword => Version.isNameWord_of_mem hword
  have hnamed : ∀ u ∈ vendor.filter (·.isNamed), u.isNamed = true := by
    intro u hu
    exact (Option.filter_eq_some_iff.mp hu).2
  have hclean : lowercase (trim (v.nameFor vendor)) = v.nameFor vendor := by
    rw [Version.nameFor_eq, trim_eq_self (isBlank_of_mem_name hwords),
      lowercase_eq_self (isLowerAscii_of_mem_name hwords)]
  have hspec : namedSpec? (v.nameFor vendor) = none := by
    -- The label brings a digit into every name.
    obtain ⟨c, cs, hlabel, hdigit⟩ := v.exists_label_eq_cons
    refine namedSpec?_eq_none ?_ hdigit
    cases vendor with
    | none => simp [Version.nameFor, hlabel]
    | some u =>
      simp only [Version.nameFor, hlabel]
      split <;> simp
  unfold parse?
  dsimp only
  rw [hclean, hspec]
  dsimp only
  rw [Version.nameFor_eq, nameWords_intercalate hwords, splitWords_wordsFor hnamed]
  dsimp only
  rw [Version.intercalate_releaseWords, VersionSpec.parse?_label hfeature, Option.map_some]

/-- The requirement on a release and a vendor accepts every version of that release. -/
theorem acceptsVersion_major (v : Version) (vendor : Option Vendor) :
    acceptsVersion ⟨.major v.feature, vendor⟩ v = true :=
  beq_self_eq_true v.feature

/-- A vendor is accepted by the requirement that asks for it, or for none if it is of a kind that is
not asked for. -/
theorem acceptsVendor_filter (spec : VersionSpec) (vendor : Option Vendor) (p : Vendor → Bool) :
    acceptsVendor ⟨spec, vendor.filter p⟩ vendor = true := by
  cases vendor with
  | none => rfl
  | some u =>
    rw [Option.filter_some]
    split
    · exact beq_self_eq_true (some u)
    · rfl

/-- A suggested name is a requirement: it asks for the release of the version that the text gives,
and for the vendor that is known or that the text mentions, unless that is OpenJDK or Oracle.  What
the name was made from meets it. -/
theorem suggested_name_resolves_back {text name : List Char} {vendor : Option Vendor}
    (h : suggestName? text vendor = some name) :
    ∃ v r, Version.parse? text = some v ∧ parse? name = some r ∧ r.version = .major v.feature ∧
      r.vendor = (vendor.or (Vendor.detect? text)).filter (fun u => u ≠ .openJdk && u ≠ .oracle) ∧
      r.acceptsVersion v = true ∧ r.acceptsVendor (vendor.or (Vendor.detect? text)) = true := by
  obtain ⟨v, hv, rfl⟩ := Option.map_eq_some_iff.mp h
  have hname := parse?_nameFor (Version.isFeature_of_parse? hv) (effectiveVendor? text vendor)
  refine ⟨v, _, hv, hname, rfl, rfl, acceptsVersion_major v _, ?_⟩
  exact acceptsVendor_filter _ (effectiveVendor? text vendor) _

/-- The name of an early-access build of Java 8 by Amazon, told by its text. -/
theorem name_of_corretto_resolves_back :
    let text := "Amazon Corretto 1.8.0_292-ea".toList
    suggestName? text none = some "corretto-1.8-ea".toList ∧
      ∃ v r, Version.parse? text = some v ∧ parse? "corretto-1.8-ea".toList = some r ∧
        r.version = .major v.feature ∧
        r.vendor = ((none : Option Vendor).or (Vendor.detect? text)).filter
          (fun u => u ≠ .openJdk && u ≠ .oracle) ∧
        r.acceptsVersion v = true ∧
        r.acceptsVendor ((none : Option Vendor).or (Vendor.detect? text)) = true := by
  intro text
  have hname : suggestName? text none = some "corretto-1.8-ea".toList := by decide
  exact ⟨hname, suggested_name_resolves_back hname⟩

end Requirement

end JdkFinder
