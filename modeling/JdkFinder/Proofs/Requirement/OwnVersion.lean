import JdkFinder.Proofs.Requirement.NameWords
import JdkFinder.Proofs.Requirement.Rule
import JdkFinder.Proofs.Text.Numbers
import JdkFinder.Proofs.Version.Around

/-!
# Names that write a version

What a name asks for is within the bounds of versions, and there is a version that it accepts.  A
name that asks for a release or for some numbers of a version accepts the version that is read in
the name itself (`Requirement.accepted_name_is_sane`): between the words that are skipped and the
early-access mark, the rule is read at the only digits of the name.
-/

namespace JdkFinder

open Text

/-! ## §1 Words without digits -/

/-- A word for a vendor has no digit of any script, not even before it is put into lower case. -/
theorem noDigit_of_ofAlias? {word : List Char} {vendor : Vendor}
    (h : Vendor.ofAlias? word = some vendor) : ∀ c ∈ word, isDigit c = false := by
  rw [Vendor.ofAlias?] at h
  have hany := List.find?_some h
  obtain ⟨other, hother, heq⟩ := List.any_eq_true.mp hany
  have hlower : ∀ c ∈ lowercase (trim word), isDigit c = false := by
    rw [← beq_iff_eq.mp heq]
    exact noDigit_of_mem_aliases hother
  obtain ⟨front, back, hfront, hback, hword⟩ := exists_eq_append_trim_append word
  rw [hword]
  simp only [List.forall_mem_append]
  exact ⟨fun c hc => Version.isDigit_of_isBlank (hfront c hc),
    (sameNumbers_lowercase _).noDigit hlower, fun c hc => Version.isDigit_of_isBlank (hback c hc)⟩

theorem isDigit_of_isSeparator {c : Char} (h : isSeparator c = true) : isDigit c = false := by
  rw [isSeparator, Bool.or_eq_true, beq_iff_eq] at h
  rcases h with hblank | rfl
  · exact Version.isDigit_of_isBlank hblank
  · decide

/-- A name whose words have no digits has none. -/
theorem HasWords.noDigit {name : List Char} {words : List (List Char)} (h : HasWords name words)
    (hwords : ∀ word ∈ words, ∀ c ∈ word, isDigit c = false) : ∀ c ∈ name, isDigit c = false := by
  intro c hc
  rcases h.cases_of_mem hc with hseparator | ⟨word, hword, hc⟩
  · exact isDigit_of_isSeparator hseparator
  · exact hwords word hword c hc

/-! ## §2 Where the version stands -/

/-- The second text is the first without letters of product names at its front. -/
def LosesLetters (s t : List Char) : Prop :=
  ∃ letters, s = letters ++ t ∧ ∀ c ∈ letters, c ∈ "openjdkav".toList

theorem LosesLetters.trans {s t u : List Char} (hst : LosesLetters s t) (htu : LosesLetters t u) :
    LosesLetters s u := by
  obtain ⟨first, rfl, hfirst⟩ := hst
  obtain ⟨second, rfl, hsecond⟩ := htu
  refine ⟨first ++ second, by rw [List.append_assoc], ?_⟩
  rw [List.forall_mem_append]
  exact ⟨hfirst, hsecond⟩

theorem losesLetters_dropCopies (word : List Char) (hword : ∀ c ∈ word, c ∈ "openjdkav".toList)
    (s : List Char) : LosesLetters s (dropCopies word s) := by
  obtain ⟨dropped, hs, hdropped⟩ := exists_append_dropCopies word s
  exact ⟨dropped, hs, fun c hc => hword c (hdropped c hc)⟩

/-- A bare text stands behind letters, with at most an early-access mark behind it. -/
theorem exists_losesLetters_bareVersion {text : List Char} (h : ∀ c ∈ text, isBlank c = false) :
    ∃ early, LosesLetters text (bareVersion text ++ Version.mark early) := by
  -- The four words are dropped one after the other, and none of the letters is a digit.
  have hletters :=
    (((losesLetters_dropCopies "openjdk".toList (forall_of_all (by decide)) text).trans
    (losesLetters_dropCopies "jdk".toList (forall_of_all (by decide)) _)).trans
    (losesLetters_dropCopies "java".toList (forall_of_all (by decide)) _)).trans
    (losesLetters_dropCopies ['v'] (forall_of_all (by decide)) _)
  generalize hrest : dropCopies ['v'] _ = rest at hletters
  have hsolid : ∀ c ∈ rest, isBlank c = false := by
    obtain ⟨letters, rfl, -⟩ := hletters
    exact fun c hc => h c (List.mem_append_right _ hc)
  have hbare : bareVersion text = (stripSuffix? "-ea".toList rest).getD rest := by
    unfold bareVersion
    dsimp only
    rw [trim_eq_self h, hrest, trim_eq_self hsolid]
  rw [hbare]
  cases hstrip : stripSuffix? "-ea".toList rest with
  | none => exact ⟨false, by simpa using hletters⟩
  | some bare =>
    rw [stripSuffix?_eq_some_iff.mp hstrip] at hletters
    exact ⟨true, hletters⟩

/-- The words of a text that ends with the mark are the text in front of it, and the mark. -/
theorem words_eq_of_intercalate {words : List (List Char)} {front : List Char} {early : Bool}
    (hwords : ∀ word ∈ words, '-' ∉ word)
    (htext : ['-'].intercalate words = front ++ Version.mark early) (hne : front ≠ [])
    (hfront : '-' ∉ front) : words = front :: if early then [['e', 'a']] else [] := by
  have hsome : words ≠ [] := by
    rintro rfl
    rw [List.intercalate_nil, List.nil_eq, List.append_eq_nil_iff] at htext
    exact hne htext.1
  -- No word has a hyphen, so splitting the joined text gives the words back.
  have hsplit := List.splitOn_intercalate '-' hwords hsome
  rw [htext] at hsplit
  rw [← hsplit]
  cases early with
  | true =>
    have hmark : Version.mark true = '-' :: ['e', 'a'] := rfl
    rw [hmark, List.splitOn_append_cons_self, List.splitOn_eq_singleton hfront]
    rfl
  | false =>
    rw [Version.mark_false, List.append_nil, List.splitOn_eq_singleton hfront]
    rfl

section Around

variable {vendor : Option Vendor} {version : List (List Char)} {bare : List Char}

/-- The words of the version are letters with the bare text behind them, and maybe the mark. -/
theorem version_eq_of_bareVersion (hsolid : ∀ word ∈ version, ∀ c ∈ word, isSeparator c = false)
    (hbare : bareVersion (['-'].intercalate version) = bare) (hne : bare ≠ [])
    (hhyphen : '-' ∉ bare) :
    ∃ letters early, version = (letters ++ bare) :: (if early = true then [['e', 'a']] else []) ∧
      ∀ c ∈ letters, c ∈ "openjdkav".toList := by
  -- A hyphen of the joined text stands between words, and neither it nor a word is blank.
  have hblank : ∀ c ∈ ['-'].intercalate version, isBlank c = false := by
    intro c hc
    rcases cases_of_mem_intercalate hc with rfl | ⟨word, hword, hc⟩
    · rfl
    · exact (Bool.or_eq_false_iff.mp (hsolid word hword c hc)).1
  obtain ⟨early, letters, htext, hletters⟩ := exists_losesLetters_bareVersion hblank
  rw [hbare, ← List.append_assoc] at htext
  refine ⟨letters, early, words_eq_of_intercalate ?_ htext (by simp [hne]) ?_, hletters⟩
  · exact fun word hword hmem => absurd (hsolid word hword '-' hmem) (by decide)
  · rw [List.mem_append]
    rintro (hmem | hmem)
    · exact absurd (hletters '-' hmem) (by decide)
    · exact hhyphen hmem

/-- The bare text holds all digits of the text whose words it was found in. -/
theorem exists_around_bareVersion {text : List Char}
    (h : splitWords none (nameWords text) = (vendor, version))
    (hbare : bareVersion (['-'].intercalate version) = bare) (hne : bare ≠ [])
    (hhyphen : '-' ∉ bare) :
    ∃ front back, text = front ++ (bare ++ back) ∧ (∀ c ∈ front, isDigit c = false) ∧
      ∀ c ∈ back, isDigit c = false := by
  obtain ⟨skipped, hwords, hskipped⟩ := exists_skipped h
  have htext := hasWords text
  rw [hwords] at htext
  obtain ⟨letters, early, rfl, hletters⟩ := version_eq_of_bareVersion
    (fun word hword => htext.isSeparator (List.mem_append_right skipped hword)) hbare hne hhyphen
  -- The first word of the version is the one that holds the bare text.
  obtain ⟨front, back, rfl, hfront, hback⟩ := htext.exists_append
  refine ⟨front ++ letters, back, by simp only [List.append_assoc], ?_, ?_⟩
  · rw [List.forall_mem_append]
    constructor
    · refine hfront.noDigit fun word hword => ?_
      rcases hskipped word hword with hnoise | ⟨other, hother⟩
      · exact noDigit_of_mem_noiseWords hnoise
      · exact noDigit_of_ofAlias? hother
    · have hall : ∀ c ∈ "openjdkav".toList, isDigit c = false := forall_of_all (by decide)
      exact fun c hc => hall c (hletters c hc)
  · refine hback.noDigit fun word hword => ?_
    split at hword
    · rw [List.mem_singleton.mp hword]
      exact forall_of_all (by decide)
    · cases hword

/-- What is written with numeric characters only stands in the name as it is, and it holds all
digits of the name. -/
theorem exists_around_in_name {name : List Char}
    (h : splitWords none (nameWords (lowercase (trim name))) = (vendor, version))
    (hbare : bareVersion (['-'].intercalate version) = bare) (hne : bare ≠ [])
    (hnumeric : ∀ c ∈ bare, isNumeric c = true) :
    ∃ front back, trim name = front ++ (bare ++ back) ∧ (∀ c ∈ front, isDigit c = false) ∧
      ∀ c ∈ back, isDigit c = false := by
  have hhyphen : '-' ∉ bare := fun hmem => absurd (hnumeric '-' hmem) (by decide)
  obtain ⟨front, back, hlower, hfront, hback⟩ := exists_around_bareVersion h hbare hne hhyphen
  -- The words were read in lower case, which moves no numeric character.
  have hsame := sameNumbers_lowercase (trim name)
  rw [hlower] at hsame
  obtain ⟨front', back', htrim, hsameFront, hsameBack⟩ := hsame.exists_append hne hnumeric
  exact ⟨front', back', htrim, hsameFront.noDigit hfront, hsameBack.noDigit hback⟩

end Around

/-! ## §3 The version that is read -/

theorem isNumeric_of_isDottedChar {c : Char} (h : isDottedChar c = true) : isNumeric c = true := by
  rw [isDottedChar, Bool.or_eq_true, Bool.or_eq_true, beq_iff_eq, beq_iff_eq] at h
  rcases h with (hdigit | rfl) | rfl
  · exact isNumeric_of_isDigit (isDigit_of_ascii hdigit)
  · decide
  · decide

theorem Version.parse?_numeral {run : List Char} {n : UInt32} (h : IsNumeral run n)
    (hfeature : isFeature n = true) : parse? run = some (ofFeature n) := by
  have hrun : IsRun run := ⟨h.ne_nil, fun c hc => isDigit_of_ascii (h.ascii c hc)⟩
  have hruns : ∀ part ∈ [run], IsRun part := by simpa using hrun
  have hparse := parse?_dotted (List.cons_ne_nil run []) hruns
  rw [dotted_singleton] at hparse
  simpa [h.word32?_eq, ofNumbers, ofFeature, Option.filter_some, hfeature] using hparse

namespace VersionSpec

/-- A rule that a version is written for. -/
def WritesVersion : VersionSpec → Prop
  | major _ => True
  | leading _ _ => True
  | _ => False

/-- No rule looks at the early-access mark. -/
theorem accepts_withEarly (spec : VersionSpec) (v : Version) (early : Bool) :
    spec.accepts { v with early := early } = spec.accepts v := by
  cases spec <;> rfl

/-- A bare text that writes a version for a rule is read as a version that the rule accepts. -/
theorem States.exists_version {text : List Char} {spec : VersionSpec} (h : States text spec)
    (hwrites : spec.WritesVersion) :
    (∀ c ∈ text, isNumeric c = true) ∧
      ∃ v, Version.parse? text = some v ∧ spec.accepts v = true := by
  cases h with
  | onward => exact hwrites.elim
  | between => exact hwrites.elim
  | @number n hword hfeature =>
    obtain ⟨sign, run, rfl, hsign, hrun⟩ := exists_numeral_of_word32? hword
    have hplus : ∀ c ∈ sign, isNumeric c = true ∧ isDigit c = false := by
      rcases hsign with rfl | rfl
      · simp
      · exact forall_of_all (by decide)
    -- The reader of versions starts at the first digit and so passes over a sign in front of it.
    have hnumeral := Version.parse?_numeral hrun hfeature
    have hback : ∀ c ∈ ([] : List Char), isDigit c = false := by simp
    obtain ⟨early, hparse⟩ := Version.parse?_around (fun c hc => (hplus c hc).2) hback hnumeral
    rw [List.append_nil] at hparse
    refine ⟨?_, _, hparse, beq_self_eq_true n⟩
    rw [List.forall_mem_append]
    exact ⟨fun c hc => (hplus c hc).1,
      fun c hc => isNumeric_of_isDigit (isDigit_of_ascii (hrun.ascii c hc))⟩
  | oldRelease hdotted hversion =>
    exact ⟨fun c hc => isNumeric_of_isDottedChar (hdotted c hc), _, hversion, beq_self_eq_true _⟩
  | oldVersion hdotted hversion =>
    exact ⟨fun c hc => isNumeric_of_isDottedChar (hdotted c hc), _, hversion, beq_self_eq_true _⟩
  | newVersion hdotted hversion =>
    exact ⟨fun c hc => isNumeric_of_isDottedChar (hdotted c hc), _, hversion, beq_self_eq_true _⟩

/-! ## §4 Bounds of rules -/

/-- The releases of a rule are between 1 and 99 and in order, and a version that it fixes numbers of
has neither a build number nor an early-access mark. -/
def IsSane : VersionSpec → Prop
  | major release => 1 ≤ release ∧ release ≤ 99
  | leading v segments =>
    (1 ≤ v.feature ∧ v.feature ≤ 99) ∧ v.build = 0 ∧ v.early = false ∧ 1 ≤ segments
  | atLeast first => 1 ≤ first ∧ first ≤ 99
  | range first last => 1 ≤ first ∧ first ≤ last ∧ last ≤ 99
  | longTerm => True
  | latest => True

theorem isFeature_of_bound? {text : List Char} {n : UInt32} (h : bound? text = some n) :
    Version.isFeature n = true := by
  unfold bound? at h
  dsimp only at h
  split at h
  · obtain ⟨-, hn⟩ := Option.filter_eq_some_iff.mp h
    rw [Bool.and_eq_true, decide_eq_true_iff, decide_eq_true_iff] at hn
    exact Version.isFeature_iff.mpr ⟨hn.1, UInt32.le_trans hn.2 (by decide)⟩
  · exact (feature?_eq_some_iff.mp h).2

theorem isSane_leading {text : List Char} {v : Version}
    (hdotted : ∀ c ∈ text, isDottedChar c = true) (hversion : Version.parse? text = some v)
    {segments : Nat} (hsegments : 1 ≤ segments) : (leading v segments).IsSane := by
  have hplus : '+' ∉ text := fun hmem => absurd (hdotted _ hmem) (by decide)
  have hhyphen : '-' ∉ text := fun hmem => absurd (hdotted _ hmem) (by decide)
  obtain ⟨hbuild, hearly⟩ := Version.build_and_early_of_no_sign hversion hplus hhyphen
  exact ⟨Version.isFeature_iff.mp (Version.isFeature_of_parse? hversion), hbuild, hearly, hsegments⟩

theorem States.isSane {text : List Char} {spec : VersionSpec} (h : States text spec) :
    spec.IsSane := by
  cases h with
  | onward _ hbase => exact Version.isFeature_iff.mp (isFeature_of_bound? hbase)
  | between _ hstart hstop hle =>
    exact ⟨(Version.isFeature_iff.mp (isFeature_of_bound? hstart)).1, hle,
      (Version.isFeature_iff.mp (isFeature_of_bound? hstop)).2⟩
  | number _ hfeature => exact Version.isFeature_iff.mp hfeature
  | oldRelease _ hversion =>
    exact Version.isFeature_iff.mp (Version.isFeature_of_parse? hversion)
  | oldVersion hdotted hversion =>
    refine isSane_leading hdotted hversion ?_
    split
    · decide
    · decide
  | newVersion hdotted hversion =>
    exact isSane_leading hdotted hversion (List.length_pos_iff.mpr (List.splitOn_ne_nil '.' text))

/-- Some text makes a version that the rule accepts. -/
def AcceptsSome (spec : VersionSpec) : Prop :=
  ∃ text v, Version.parse? text = some v ∧ spec.accepts v = true

theorem acceptsSome_of_feature {spec : VersionSpec} {n : UInt32}
    (hfeature : Version.isFeature n = true) (h : spec.accepts (.ofFeature n) = true) :
    spec.AcceptsSome := by
  have hversion : Version.parse? (Version.writeParts [n] none false) = some (.ofFeature n) :=
    Version.parse?_writeParts_self (by simp) hfeature
  exact ⟨_, _, hversion, h⟩

theorem States.acceptsSome {text : List Char} {spec : VersionSpec} (h : States text spec) :
    spec.AcceptsSome := by
  cases h with
  | @onward base first _ hbase =>
    refine acceptsSome_of_feature (isFeature_of_bound? hbase) ?_
    simp [accepts]
  | @between start stop first last _ hstart hstop hle =>
    refine acceptsSome_of_feature (isFeature_of_bound? hstart) ?_
    simp [accepts, hle]
  | number hword hfeature => exact ⟨_, (States.number hword hfeature).exists_version trivial |>.2⟩
  | oldRelease hdotted hversion => exact ⟨_, _, hversion, beq_self_eq_true _⟩
  | oldVersion hdotted hversion => exact ⟨_, _, hversion, beq_self_eq_true _⟩
  | newVersion hdotted hversion => exact ⟨_, _, hversion, beq_self_eq_true _⟩

end VersionSpec

/-! ## §5 Accepted names -/

namespace Requirement

/-- What a name asks for is named, or it is read in the words behind those that are skipped. -/
theorem cases_of_parse? {name : List Char} {r : Requirement} (h : parse? name = some r) :
    (r.version = .longTerm ∨ r.version = .latest) ∨
      ∃ vendor version,
        splitWords none (nameWords (lowercase (trim name))) = (vendor, version) ∧
          VersionSpec.parse? (['-'].intercalate version) = some r.version := by
  unfold parse? at h
  dsimp only at h
  -- The whole name is a keyword, or it is split into vendor and version.
  split at h
  · rename_i spec hspec
    cases h
    unfold namedSpec? at hspec
    split at hspec
    · cases hspec
      exact .inl (.inl rfl)
    · obtain ⟨-, hlatest⟩ := Option.ite_none_right_eq_some.mp hspec
      cases hlatest
      exact .inl (.inr rfl)
  · obtain ⟨spec, hspec, rfl⟩ := Option.map_eq_some_iff.mp h
    exact .inr ⟨_, _, rfl, hspec⟩

theorem bareVersion_ne_nil_of_parse? {text : List Char} {spec : VersionSpec}
    (h : VersionSpec.parse? text = some spec) : bareVersion text ≠ [] := by
  unfold VersionSpec.parse? at h
  dsimp only at h
  obtain ⟨hne, -⟩ := Option.ite_none_left_eq_some.mp h
  simpa using hne

/-- A name that writes a version for its rule is read as a version that the rule accepts. -/
theorem exists_own_version {name : List Char} {vendor : Option Vendor} {version : List (List Char)}
    (hwords : splitWords none (nameWords (lowercase (trim name))) = (vendor, version))
    {spec : VersionSpec} (hspec : VersionSpec.parse? (['-'].intercalate version) = some spec)
    (hwrites : spec.WritesVersion) :
    ∃ v, Version.parse? name = some v ∧ spec.accepts v = true := by
  obtain ⟨hnumeric, v, hversion, haccepts⟩ :=
    (VersionSpec.states_of_parse? hspec).exists_version hwrites
  obtain ⟨front, back, htrim, hfront, hback⟩ := exists_around_in_name hwords rfl
    (bareVersion_ne_nil_of_parse? hspec) hnumeric
  obtain ⟨early, hparse⟩ := Version.parse?_around hfront hback hversion
  rw [← htrim, Version.parse?_trim] at hparse
  exact ⟨_, hparse, by rw [spec.accepts_withEarly, haccepts]⟩

/-- What a name asks for is within the bounds of versions, and some version meets it.  If it is a
release or numbers of a version, the version that is read in the name itself meets it, whatever
words, letters and marks stand around it. -/
theorem accepted_name_is_sane {name : List Char} {r : Requirement} (h : parse? name = some r) :
    r.version.IsSane ∧
    (∃ text v, Version.parse? text = some v ∧ r.acceptsVersion v = true) ∧
    (r.version.WritesVersion → ∃ v, Version.parse? name = some v ∧ r.acceptsVersion v = true) := by
  obtain ⟨spec, vendor⟩ := r
  rcases cases_of_parse? h with (rfl | rfl) | ⟨found, version, hwords, hspec⟩
  · exact ⟨trivial, VersionSpec.acceptsSome_of_feature (n := 8) rfl rfl, False.elim⟩
  · exact ⟨trivial, VersionSpec.acceptsSome_of_feature (n := 8) rfl rfl, False.elim⟩
  · have hstates := VersionSpec.states_of_parse? hspec
    exact ⟨hstates.isSane, hstates.acceptsSome, exists_own_version hwords hspec⟩

/-- A name with the word for a vendor, a letter and an early-access mark around the version. -/
theorem own_version_of_corretto_11_0_2 :
    let name := "Corretto v11.0.2-EA".toList
    let r : Requirement := ⟨.leading ⟨11, 0, 2, 0, 0, false⟩ 3, some .corretto⟩
    parse? name = some r ∧ r.version.WritesVersion ∧ r.version.IsSane ∧
      (∃ text v, Version.parse? text = some v ∧ r.acceptsVersion v = true) ∧
      ∃ v, Version.parse? name = some v ∧ r.acceptsVersion v = true := by
  intro name r
  have hname : parse? name = some r := by decide +kernel
  obtain ⟨hsane, hsome, hown⟩ := accepted_name_is_sane hname
  exact ⟨hname, trivial, hsane, hsome, hown trivial⟩

end Requirement

end JdkFinder
