import JdkFinder.Proofs.Text.Lowercase
import JdkFinder.Proofs.Version.RoundTrip
import JdkFinder.Requirement.Parser

/-!
# Texts of rules

Once the letters around it are gone, the text of a rule on versions is a bound with a sign behind
it, a range, a number or a dotted version (`VersionSpec.States`).  A dotted version with two or more
numbers fixes as many of them as it writes, unless it starts with `1.`: then it fixes its release,
and with an underscore its update too.
-/

namespace JdkFinder

open Text

/-! ## §1 Bare texts -/

/-- The characters that rules are written with. -/
def isRuleChar (c : Char) : Bool :=
  isDottedChar c || c == '+' || c == '-'

theorem isDottedChar_of_isDigit {c : Char} (h : c.isDigit = true) : isDottedChar c = true := by
  rw [isDottedChar, h, Bool.true_or, Bool.true_or]

theorem isRuleChar_of_isDottedChar {c : Char} (h : isDottedChar c = true) :
    isRuleChar c = true := by
  rw [isRuleChar, h, Bool.true_or, Bool.true_or]

theorem cases_of_isRuleChar {c : Char} (h : isRuleChar c = true) :
    c.isDigit = true ∨ c ∈ ['.', '_', '+', '-'] := by
  simpa [isRuleChar, isDottedChar, or_assoc] using h

theorem isBlank_of_isRuleChar {c : Char} (h : isRuleChar c = true) : isBlank c = false := by
  have hsigns : ∀ d ∈ ['.', '_', '+', '-'], isBlank d = false := forall_of_all (by decide)
  rcases cases_of_isRuleChar h with hdigit | hsign
  · exact isBlank_of_ascii_digit hdigit
  · exact hsigns c hsign

theorem isLowerAscii_of_isRuleChar {c : Char} (h : isRuleChar c = true) : IsLowerAscii c := by
  have hsigns : ∀ d ∈ ['.', '_', '+', '-'], IsLowerAscii d := forall_of_all (by decide)
  rcases cases_of_isRuleChar h with hdigit | hsign
  · exact isLowerAscii_of_isDigit hdigit
  · exact hsigns c hsign

/-- No word of letters is dropped in front of such a character. -/
theorem dropCopies_of_isRuleChar (word : List Char) {s : List Char}
    (hword : ∀ b ∈ word, isRuleChar b = false) (hs : ∀ d ∈ s.head?, isRuleChar d = true) :
    dropCopies word s = s := by
  cases word with
  | nil => rw [dropCopies, dif_pos rfl]
  | cons b bs =>
    apply dropCopies_eq_self
    rintro d hd rfl
    have hb : isRuleChar d = false := hword d List.mem_cons_self
    rw [hs d hd] at hb
    cases hb

theorem isRuleChar_of_mem_head_append_mark {text : List Char}
    (h : ∀ c ∈ text, isRuleChar c = true) (early : Bool) :
    ∀ d ∈ (text ++ Version.mark early).head?, isRuleChar d = true := by
  intro d hd
  cases text with
  | cons c text =>
    cases hd
    exact h _ List.mem_cons_self
  | nil =>
    cases early with
    | true =>
      cases hd
      rfl
    | false => cases hd

/-- The early-access mark is taken off, and nothing else is. -/
theorem getD_stripSuffix?_append_mark {text : List Char} (h : ∀ d ∈ text.getLast?, d ≠ 'a')
    (early : Bool) :
    (stripSuffix? "-ea".toList (text ++ Version.mark early)).getD (text ++ Version.mark early) =
      text := by
  cases early with
  | true =>
    rw [Version.mark_true, stripSuffix?_append]
    rfl
  | false =>
    have hnone : stripSuffix? "-ea".toList text = none := stripSuffix?_eq_none ['-', 'e'] h
    rw [Version.mark_false, List.append_nil, hnone]
    rfl

/-- A bare text stays as it is, and an early-access mark behind it is taken off. -/
theorem bareVersion_append_mark {text : List Char} (h : ∀ c ∈ text, isRuleChar c = true)
    (early : Bool) : bareVersion (text ++ Version.mark early) = text := by
  have hsolid : ∀ d ∈ text ++ Version.mark early, isBlank d = false := by
    have hmark : ∀ d ∈ Version.mark early, isBlank d = false := by
      cases early <;> exact forall_of_all (by decide)
    rw [List.forall_mem_append]
    exact ⟨fun d hd => isBlank_of_isRuleChar (h d hd), hmark⟩
  have hlast : ∀ d ∈ text.getLast?, d ≠ 'a' := by
    rintro d hd rfl
    exact absurd (h _ (List.mem_of_getLast? hd)) (by decide)
  have hhead := isRuleChar_of_mem_head_append_mark h early
  have htrim := trim_eq_self hsolid
  -- No name of a product stands in front of such a text, so only the mark goes.
  unfold bareVersion
  dsimp only
  rw [htrim, dropCopies_of_isRuleChar "openjdk".toList (forall_of_all (by decide)) hhead,
    dropCopies_of_isRuleChar "jdk".toList (forall_of_all (by decide)) hhead,
    dropCopies_of_isRuleChar "java".toList (forall_of_all (by decide)) hhead,
    dropCopies_of_isRuleChar ['v'] (forall_of_all (by decide)) hhead, htrim,
    getD_stripSuffix?_append_mark hlast]

theorem bareVersion_eq_self {text : List Char} (h : ∀ c ∈ text, isRuleChar c = true) :
    bareVersion text = text := by
  have hbare := bareVersion_append_mark h false
  rwa [Version.mark_false, List.append_nil] at hbare

/-! ## §2 Rules -/

/-- A text with a character that is neither a digit nor a sign at its front is no number. -/
theorem word32?_eq_none {s : List Char} {c : Char} (hc : c ∈ s) (hdigit : c.isDigit = false)
    (hplus : ∀ d ∈ s.head?, d ≠ '+') : word32? s = none := by
  rw [Option.eq_none_iff_forall_ne_some]
  intro n hn
  have hnumeral : IsNumeral s n := (word32?_eq_some_iff hplus).mp hn
  have hascii := hnumeral.ascii c hc
  rw [hdigit] at hascii
  cases hascii

theorem feature?_eq_some_iff {text : List Char} {n : UInt32} :
    feature? text = some n ↔ word32? text = some n ∧ Version.isFeature n = true :=
  Option.filter_eq_some_iff

namespace VersionSpec

/-- What a bare text states. -/
inductive States (text : List Char) : VersionSpec → Prop
  /-- A bound with a plus sign behind it. -/
  | onward {base : List Char} {first : UInt32} (htext : text = base ++ ['+'])
      (hbase : bound? base = some first) : States text (.atLeast first)
  /-- Two bounds with a hyphen between them, in order. -/
  | between {start stop : List Char} {first last : UInt32} (htext : text = start ++ '-' :: stop)
      (hstart : bound? start = some first) (hstop : bound? stop = some last)
      (hle : first ≤ last) : States text (.range first last)
  /-- A number. -/
  | number {n : UInt32} (hword : word32? text = some n) (hfeature : Version.isFeature n = true) :
      States text (.major n)
  /-- The release in the old numbering, such as `1.8`. -/
  | oldRelease {v : Version} (hdotted : ∀ c ∈ text, isDottedChar c = true)
      (hversion : Version.parse? text = some v) (hone : ['1', '.'] <+: text)
      (htwo : (text.splitOn '.').length = 2) (hplain : '_' ∉ text) : States text (.major v.feature)
  /-- Another version in the old numbering. -/
  | oldVersion {v : Version} (hdotted : ∀ c ∈ text, isDottedChar c = true)
      (hversion : Version.parse? text = some v) (hone : ['1', '.'] <+: text)
      (hmore : ¬ ((text.splitOn '.').length = 2 ∧ '_' ∉ text)) :
      States text (.leading v (if '_' ∈ text then 3 else 1))
  /-- A version in the new numbering. -/
  | newVersion {v : Version} (hdotted : ∀ c ∈ text, isDottedChar c = true)
      (hversion : Version.parse? text = some v) (hone : ¬ ['1', '.'] <+: text) :
      States text (.leading v (text.splitOn '.').length)

/-- What a dotted version states, by how it is written. -/
theorem dotted?_eq {text : List Char} (h : ∀ c ∈ text, isDottedChar c = true) {v : Version}
    (hversion : Version.parse? text = some v) :
    dotted? text = some (
      if ['1', '.'] <+: text then
        if (text.splitOn '.').length = 2 ∧ '_' ∉ text then .major v.feature
        else .leading v (if '_' ∈ text then 3 else 1)
      else .leading v (text.splitOn '.').length) := by
  have hall : text.all isDottedChar = true := List.all_eq_true.mpr h
  unfold dotted?
  rw [hall, hversion]
  simp

theorem states_of_dotted? {text : List Char} {spec : VersionSpec} (h : dotted? text = some spec) :
    States text spec := by
  -- Whichever form is read, the text is dotted and a version is read from it.
  have hdotted : ∀ c ∈ text, isDottedChar c = true := by
    unfold dotted? at h
    simpa using (Option.ite_none_left_eq_some.mp h).1
  obtain ⟨v, hversion⟩ : ∃ v, Version.parse? text = some v := by
    unfold dotted? at h
    obtain ⟨v, hv, -⟩ := Option.map_eq_some_iff.mp (Option.ite_none_left_eq_some.mp h).2
    exact ⟨v, hv⟩
  rw [dotted?_eq hdotted hversion] at h
  -- The first number is 1 and a release follows, 1 with more behind it, or not 1.
  split at h
  · rename_i hone
    split at h
    · rename_i hrelease
      cases h
      exact .oldRelease hdotted hversion hone hrelease.1 hrelease.2
    · rename_i hmore
      cases h
      exact .oldVersion hdotted hversion hone hmore
  · rename_i hone
    cases h
    exact .newVersion hdotted hversion hone

/-- A text states what its bare form states. -/
theorem states_of_parse? {text : List Char} {spec : VersionSpec} (h : parse? text = some spec) :
    States (bareVersion text) spec := by
  unfold parse? at h
  dsimp only at h
  obtain ⟨-, h⟩ := Option.ite_none_left_eq_some.mp h
  -- The signs are looked for before numbers: a plus sign at the end first, then any hyphen.
  split at h
  · rename_i base hbase
    obtain ⟨first, hfirst, rfl⟩ := Option.map_eq_some_iff.mp h
    exact .onward (stripSuffix?_eq_some_iff.mp hbase) hfirst
  · split at h
    · rename_i start stop hsplit
      unfold range? at h
      split at h
      · rename_i first last hstart hstop
        obtain ⟨hle, hspec⟩ := Option.ite_none_right_eq_some.mp h
        cases hspec
        exact .between (eq_append_of_splitOnce? hsplit) hstart hstop hle
      · cases h
    · split at h
      · obtain ⟨n, hn, rfl⟩ := Option.map_eq_some_iff.mp h
        obtain ⟨hword, hfeature⟩ := feature?_eq_some_iff.mp hn
        exact .number hword hfeature
      · exact states_of_dotted? h

theorem parse?_onward {base : List Char} (h : ∀ c ∈ base, isRuleChar c = true) :
    parse? (base ++ ['+']) = (bound? base).map .atLeast := by
  have hbare : bareVersion (base ++ ['+']) = base ++ ['+'] := by
    apply bareVersion_eq_self
    rw [List.forall_mem_append, List.forall_mem_singleton]
    exact ⟨h, rfl⟩
  unfold parse?
  dsimp only
  rw [hbare, if_neg (by simp), stripSuffix?_append]

theorem parse?_between {start stop : List Char} (hstart : ∀ c ∈ start, isDottedChar c = true)
    (hstop : ∀ c ∈ stop, isDottedChar c = true) :
    parse? (start ++ '-' :: stop) = range? start stop := by
  have hbare : bareVersion (start ++ '-' :: stop) = start ++ '-' :: stop := by
    apply bareVersion_eq_self
    rw [List.forall_mem_append, List.forall_mem_cons]
    exact ⟨fun c hc => isRuleChar_of_isDottedChar (hstart c hc), rfl,
      fun c hc => isRuleChar_of_isDottedChar (hstop c hc)⟩
  -- So the first hyphen is the one between the bounds, and the text does not end with a plus sign.
  have hlast : ∀ d ∈ (start ++ '-' :: stop).getLast?, d ≠ '+' := by
    rintro d hd rfl
    rcases List.mem_append.mp (List.mem_of_getLast? hd) with hmem | hmem
    · exact absurd (hstart _ hmem) (by decide)
    · rcases List.mem_cons.mp hmem with hmem | hmem
      · exact absurd hmem (by decide)
      · exact absurd (hstop _ hmem) (by decide)
  have hhyphen : '-' ∉ start := fun hmem => absurd (hstart _ hmem) (by decide)
  have hplus : stripSuffix? ['+'] (start ++ '-' :: stop) = none := stripSuffix?_eq_none [] hlast
  unfold parse?
  dsimp only
  rw [hbare, if_neg (by simp), hplus]
  dsimp only
  rw [splitOnce?_append hhyphen]

/-- Without signs a text is a number or a dotted version. -/
theorem parse?_dotted {text : List Char} (hne : text ≠ [])
    (h : ∀ c ∈ text, isDottedChar c = true) (early : Bool) :
    parse? (text ++ Version.mark early) =
      match word32? text with
      | some _ => (feature? text).map .major
      | none => dotted? text := by
  -- A dotted text has neither the sign of a bound nor that of a range.
  have hlast : ∀ d ∈ text.getLast?, d ≠ '+' := by
    rintro d hd rfl
    exact absurd (h _ (List.mem_of_getLast? hd)) (by decide)
  have hhyphen : '-' ∉ text := fun hmem => absurd (h _ hmem) (by decide)
  have hplus : stripSuffix? ['+'] text = none := stripSuffix?_eq_none [] hlast
  have hsplit : splitOnce? '-' text = none := splitOnce?_eq_none hhyphen
  unfold parse?
  dsimp only
  rw [bareVersion_append_mark (fun c hc => isRuleChar_of_isDottedChar (h c hc)),
    if_neg (by simpa using hne), hplus]
  cases word32? text with
  | none => simp only [hsplit]
  | some n => simp only [hsplit]

end VersionSpec

/-! ## §3 Written versions as rules -/

namespace Version

theorem cases_of_mem_writeParts_none {numbers : List UInt32} {c : Char}
    (h : c ∈ writeParts numbers none false) : c.isDigit = true ∨ c = '.' := by
  rw [writeParts_none] at h
  rcases cases_of_mem_intercalate h with hdot | ⟨run, hrun, hc⟩
  · exact .inr hdot
  · obtain ⟨n, -, rfl⟩ := List.mem_map.mp hrun
    exact .inl (ascii_of_mem_decimal hc)

theorem isDottedChar_of_mem_writeParts {numbers : List UInt32} {underscore : Option UInt32}
    {c : Char} (h : c ∈ writeParts numbers underscore false) : isDottedChar c = true := by
  have hnumbers : ∀ d ∈ writeParts numbers none false, isDottedChar d = true := by
    intro d hd
    rcases cases_of_mem_writeParts_none hd with hdigit | rfl
    · exact isDottedChar_of_isDigit hdigit
    · rfl
  rw [writeParts_append, List.mem_append] at h
  -- Numbers and dots, and the underscore with the number behind it.
  rcases h with h | h
  · exact hnumbers c h
  · cases underscore with
    | none => cases h
    | some n =>
      rcases List.mem_cons.mp h with rfl | hc
      · rfl
      · exact isDottedChar_of_isDigit (ascii_of_mem_decimal hc)

/-- A written version is read as the version with its numbers. -/
theorem parse?_writeParts_self {numbers : List UInt32} (hnumbers : numbers ≠ [])
    {underscore : Option UInt32}
    (hfeature : isFeature (ofNumbers numbers underscore none false).feature = true) :
    parse? (writeParts numbers underscore false) =
      some (ofNumbers numbers underscore none false) := by
  have hpre : ∀ c ∈ ([] : List Char), isDigit c = false := by simp
  have hbuild : takeBuild [] = (none : Option UInt32).map (decimal ·.toNat) := rfl
  have hparts := parse?_writeParts hnumbers underscore false hpre follows_nil hbuild
  rwa [List.nil_append, List.append_nil, Option.filter_some, if_pos hfeature] at hparts

theorem length_splitOn_writeParts {numbers : List UInt32} (hnumbers : numbers ≠ []) :
    ((writeParts numbers none false).splitOn '.').length = numbers.length := by
  have hne : numbers.map (decimal ·.toNat) ≠ [] := fun h => hnumbers (List.map_eq_nil_iff.mp h)
  have hruns : ∀ run ∈ numbers.map (decimal ·.toNat), IsRun run := by
    intro run hrun
    obtain ⟨n, -, rfl⟩ := List.mem_map.mp hrun
    exact isRun_decimal n.toNat
  rw [writeParts_none, splitOn_dotted hne hruns, List.length_map]

theorem underscore_mem_writeParts_iff {numbers : List UInt32} {underscore : Option UInt32} :
    '_' ∈ writeParts numbers underscore false ↔ underscore.isSome = true := by
  have hnumbers : '_' ∉ writeParts numbers none false := by
    intro hmem
    rcases cases_of_mem_writeParts_none hmem with h | h
    · exact absurd h (by decide)
    · exact absurd h (by decide)
  rw [writeParts_append, List.mem_append]
  cases underscore with
  | none => simp [hnumbers]
  | some n => simp

/-- Two numbers are written with a dot between them, and so they are no number. -/
theorem word32?_writeParts_eq_none (first second : UInt32) (rest : List UInt32)
    (underscore : Option UInt32) :
    word32? (writeParts (first :: second :: rest) underscore false) = none := by
  have hdot : '.' ∈ writeParts (first :: second :: rest) underscore false := by
    rw [writeParts_append, writeParts_none, List.map_cons, List.map_cons, dotted_cons]
    simp
  obtain ⟨c, cs, htext, hdigit⟩ :=
    exists_writeParts_eq_cons (List.cons_ne_nil first (second :: rest)) underscore false
  refine word32?_eq_none hdot (by decide) ?_
  rw [htext]
  rintro d hd rfl
  cases hd
  exact absurd hdigit (by decide)

theorem one_dot_prefix_writeParts (release : UInt32) (rest : List UInt32)
    (underscore : Option UInt32) :
    ['1', '.'] <+: writeParts (1 :: release :: rest) underscore false := by
  have hone : decimal (1 : UInt32).toNat = ['1'] := rfl
  rw [writeParts, List.map_cons, List.map_cons, dotted_cons, hone]
  exact ⟨_, rfl⟩

/-- A number is written with `1` and nothing else only if it is 1. -/
theorem not_one_dot_prefix_writeParts {first : UInt32} (hfirst : first ≠ 1) (rest : List UInt32) :
    ¬ ['1', '.'] <+: writeParts (first :: rest) none false := by
  obtain ⟨more, hmore⟩ : ∃ more, writeParts (first :: rest) none false =
      decimal first.toNat ++ more := by
    rw [writeParts_none, List.map_cons]
    cases rest with
    | nil => exact ⟨[], by rw [List.map_nil, dotted_singleton, List.append_nil]⟩
    | cons second rest => exact ⟨_, by rw [List.map_cons, dotted_cons]⟩
  rintro ⟨tail, htail⟩
  rw [hmore] at htail
  cases hdecimal : decimal first.toNat with
  | nil => exact decimal_ne_nil _ hdecimal
  | cons c digits =>
    rw [hdecimal] at htail
    simp only [List.cons_append, List.nil_append, List.cons.injEq] at htail
    obtain ⟨rfl, hrest⟩ := htail
    cases digits with
    | nil =>
      have hword := word32?_decimal first
      rw [hdecimal] at hword
      exact hfirst (Option.some.inj (hword.symm.trans (by decide)))
    | cons d digits =>
      -- The dot would be a digit of the number.
      obtain ⟨rfl, -⟩ := List.cons.inj hrest
      have hdot := ascii_of_mem_decimal (n := first.toNat) (c := '.') (by simp [hdecimal])
      exact absurd hdot (by decide)

theorem feature_ofNumbers_new {first : UInt32} (hfirst : first ≠ 1) (rest : List UInt32)
    (underscore build : Option UInt32) (early : Bool) :
    (ofNumbers (first :: rest) underscore build early).feature = first := by
  cases rest with
  | nil => rfl
  | cons second rest => rw [ofNumbers, if_neg hfirst]

end Version

namespace VersionSpec

open Version

theorem writeParts_ne_nil {numbers : List UInt32} (hnumbers : numbers ≠ [])
    (underscore : Option UInt32) : writeParts numbers underscore false ≠ [] := by
  obtain ⟨c, cs, htext, -⟩ := exists_writeParts_eq_cons hnumbers underscore false
  simp [htext]

/-- Two or more numbers are read as a dotted version. -/
theorem parse?_writeParts (first second : UInt32) (rest : List UInt32) (underscore : Option UInt32)
    (early : Bool) :
    parse? (writeParts (first :: second :: rest) underscore false ++ mark early) =
      dotted? (writeParts (first :: second :: rest) underscore false) := by
  have hne := writeParts_ne_nil (List.cons_ne_nil first (second :: rest)) underscore
  rw [parse?_dotted hne fun c hc => isDottedChar_of_mem_writeParts hc, word32?_writeParts_eq_none]

theorem parse?_number {n : UInt32} (hfeature : isFeature n = true) (early : Bool) :
    parse? (writeParts [n] none false ++ mark early) = some (.major n) := by
  have hword : word32? (writeParts [n] none false) = some n := by
    rw [writeParts_none, List.map_singleton, dotted_singleton, word32?_decimal]
  have hn : feature? (writeParts [n] none false) = some n :=
    feature?_eq_some_iff.mpr ⟨hword, hfeature⟩
  have hne := writeParts_ne_nil (List.cons_ne_nil n []) none
  rw [parse?_dotted hne fun c hc => isDottedChar_of_mem_writeParts hc, hword, hn]
  rfl

/-- The old number of a release states that release. -/
theorem parse?_oldRelease {release : UInt32} (hfeature : isFeature release = true) (early : Bool) :
    parse? (writeParts [1, release] none false ++ mark early) = some (.major release) := by
  have hversion : Version.parse? (writeParts [1, release] none false) = some (ofFeature release) :=
    parse?_writeParts_self (by simp) hfeature
  have hlength : ((writeParts [1, release] none false).splitOn '.').length = 2 :=
    length_splitOn_writeParts (by simp)
  have hunderscore : '_' ∉ writeParts [1, release] none false := by
    simp [underscore_mem_writeParts_iff]
  rw [parse?_writeParts, dotted?_eq (fun c hc => isDottedChar_of_mem_writeParts hc) hversion,
    if_pos (one_dot_prefix_writeParts release [] none), if_pos ⟨hlength, hunderscore⟩]
  rfl

/-- In the old numbering a longer version fixes its release, and with an underscore its update. -/
theorem parse?_oldVersion {release : UInt32} (hfeature : isFeature release = true)
    {rest : List UInt32} {underscore : Option UInt32} (hmore : rest ≠ [] ∨ underscore.isSome) :
    parse? (writeParts (1 :: release :: rest) underscore false) =
      some (.leading (ofNumbers (1 :: release :: rest) underscore none false)
        (if underscore.isSome then 3 else 1)) := by
  have hversion : Version.parse? (writeParts (1 :: release :: rest) underscore false) =
      some (ofNumbers (1 :: release :: rest) underscore none false) :=
    parse?_writeParts_self (by simp) hfeature
  -- A third number makes more than two pieces, and otherwise there is an underscore.
  have hlonger : ¬ (((writeParts (1 :: release :: rest) underscore false).splitOn '.').length = 2 ∧
      '_' ∉ writeParts (1 :: release :: rest) underscore false) := by
    rw [underscore_mem_writeParts_iff]
    rintro ⟨hlength, hplain⟩
    rw [Bool.not_eq_true, Option.isSome_eq_false_iff, Option.isNone_iff_eq_none] at hplain
    subst hplain
    rw [length_splitOn_writeParts (by simp)] at hlength
    have hnone : rest = [] := by simpa using hlength
    rcases hmore with hrest | hunderscore
    · exact hrest hnone
    · cases hunderscore
  have hread := parse?_writeParts 1 release rest underscore false
  rw [mark_false, List.append_nil] at hread
  rw [hread, dotted?_eq (fun c hc => isDottedChar_of_mem_writeParts hc) hversion,
    if_pos (one_dot_prefix_writeParts release rest underscore), if_neg hlonger]
  simp only [underscore_mem_writeParts_iff]

/-- In the new numbering a version fixes the numbers that it writes. -/
theorem parse?_newVersion {first second : UInt32} {rest : List UInt32} (hfirst : first ≠ 1)
    (hfeature : isFeature first = true) :
    parse? (writeParts (first :: second :: rest) none false) =
      some (.leading (ofNumbers (first :: second :: rest) none none false) (rest.length + 2)) := by
  have hversion : Version.parse? (writeParts (first :: second :: rest) none false) =
      some (ofNumbers (first :: second :: rest) none none false) := by
    refine parse?_writeParts_self (by simp) ?_
    rwa [feature_ofNumbers_new hfirst]
  have hread := parse?_writeParts first second rest none false
  rw [mark_false, List.append_nil] at hread
  rw [hread, dotted?_eq (fun c hc => isDottedChar_of_mem_writeParts hc) hversion,
    if_neg (not_one_dot_prefix_writeParts hfirst (second :: rest)),
    length_splitOn_writeParts (by simp)]
  rfl

end VersionSpec

end JdkFinder
