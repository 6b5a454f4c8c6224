import JdkFinder.Proofs.Version.Grammar

/-!
# What stands around a version

A text says the same of a version when white space is put around it (`Version.parse?_trim`).  Other
text around it changes little as long as it has no digit: in front it is passed over, and behind it
can add no more than an early-access mark (`Version.parse?_around`).
-/

namespace JdkFinder.Version

open Text

/-! ## §1 Text without digits -/

section NoDigits

variable {back : List Char}

/-- A sign with a digit is there, or it is not: a text without digits behind it adds none. -/
theorem goesOn_append_iff (hback : ∀ c ∈ back, isDigit c = false) {sign s : List Char} :
    GoesOn sign (s ++ back) ↔ GoesOn sign s := by
  constructor
  · rintro ⟨c, rest, heq, hc⟩
    -- The digit that goes on is none of what follows the text.
    have hnot : c ∉ back := by
      intro hmem
      rw [hback c hmem] at hc
      cases hc
    rcases List.append_eq_append_iff.mp heq with ⟨more, -, hmore⟩ | ⟨more, rfl, hmore⟩
    · rw [hmore] at hnot
      exact (hnot (by simp)).elim
    · cases more with
      | nil =>
        rw [← show c :: rest = back from hmore] at hnot
        exact (hnot List.mem_cons_self).elim
      | cons d more =>
        obtain ⟨rfl, -⟩ := List.cons.inj hmore
        exact ⟨c, more, rfl, hc⟩
  · rintro ⟨c, rest, rfl, hc⟩
    exact ⟨c, rest ++ back, by simp, hc⟩

theorem not_goesOn {s : List Char} (h : ∀ c ∈ s, isDigit c = false) (sign : List Char) :
    ¬ GoesOn sign s := by
  rintro ⟨c, rest, rfl, hc⟩
  rw [h c (by simp)] at hc
  cases hc

theorem LongestRun.append (hback : ∀ c ∈ back, isDigit c = false) {runs : List (List Char)}
    {s rest : List Char} (h : LongestRun runs s rest) :
    LongestRun runs (s ++ back) (rest ++ back) where
  runs_ne_nil := h.runs_ne_nil
  isRun := h.isRun
  text_eq := by rw [h.text_eq, List.append_assoc]
  noDigit := by
    rw [goesOn_append_iff hback]
    exact h.noDigit
  noDot := by
    rw [goesOn_append_iff hback]
    exact h.noDot

theorem TakesSigned.append (hback : ∀ c ∈ back, isDigit c = false) {sign : List Char}
    {run : Option (List Char)} {s rest : List Char} (h : TakesSigned sign run s rest) :
    TakesSigned sign run (s ++ back) (rest ++ back) := by
  cases h with
  | taken hrun hrest =>
    rw [List.append_assoc, List.append_assoc]
    refine .taken hrun ?_
    rwa [goesOn_append_iff hback]
  | absent hnone =>
    refine .absent ?_
    rwa [goesOn_append_iff hback]

theorem TakesBuild.append (hback : ∀ c ∈ back, isDigit c = false) {build : Option (List Char)}
    {s : List Char} (h : TakesBuild build s) : TakesBuild build (s ++ back) := by
  cases h with
  | plus h => exact .plus (h.append hback)
  | hyphen h => exact .hyphen (h.append hback)
  | absent hplus hhyphen =>
    refine .absent ?_ ?_
    · rwa [goesOn_append_iff hback]
    · rwa [goesOn_append_iff hback]

/-- Without digits there is no build number. -/
theorem TakesBuild.of_noDigit {s : List Char} (h : ∀ c ∈ s, isDigit c = false) :
    TakesBuild none s :=
  .absent (not_goesOn h _) (not_goesOn h _)

theorem TakesBuild.eq_none {build : Option (List Char)} {s : List Char} (h : TakesBuild build s)
    (hs : ∀ c ∈ s, isDigit c = false) : build = none := by
  rw [← h.takeBuild_eq, (TakesBuild.of_noDigit hs).takeBuild_eq]

/-- A mark that a text completes leaves nothing for a build number, before it or behind it. -/
theorem TakesBuild.of_completed_mark (hback : ∀ c ∈ back, isDigit c = false)
    {build : Option (List Char)} {mark s rest : List Char} (hmark : ∀ c ∈ mark, isDigit c = false)
    (hnot : ¬ mark <+: s) (heq : s ++ back = mark ++ rest) (h : TakesBuild build s) :
    TakesBuild build rest := by
  rcases List.append_eq_append_iff.mp heq with ⟨more, rfl, rfl⟩ | ⟨more, rfl, -⟩
  · rw [h.eq_none fun c hc => hmark c (List.mem_append_left _ hc)]
    exact .of_noDigit fun c hc => hback c (List.mem_append_right _ hc)
  · exact absurd (List.prefix_append mark more) hnot

/-- Behind the underscore a text without digits may complete a mark, and it can do no more. -/
theorem TakesMark.exists_append (hback : ∀ c ∈ back, isDigit c = false) {early : Bool}
    {build : Option (List Char)} {s rest : List Char} (hmark : TakesMark early s rest)
    (hbuild : TakesBuild build rest) :
    ∃ early' rest', TakesMark early' (s ++ back) rest' ∧ TakesBuild build rest' := by
  -- The mark in the text stays one; without a mark, what follows may complete one.
  cases hmark with
  | ea =>
    rw [List.append_assoc]
    exact ⟨true, rest ++ back, .ea _, hbuild.append hback⟩
  | internal =>
    rw [List.append_assoc]
    exact ⟨true, rest ++ back, .internal _, hbuild.append hback⟩
  | absent hea hinternal =>
    obtain ⟨early', rest', hmark'⟩ := exists_takesMark (s ++ back)
    refine ⟨early', rest', hmark', ?_⟩
    generalize htext : s ++ back = text at hmark'
    cases hmark' with
    | ea => exact hbuild.of_completed_mark hback (forall_of_all (by decide)) hea htext
    | internal => exact hbuild.of_completed_mark hback (forall_of_all (by decide)) hinternal htext
    | absent => exact htext ▸ hbuild.append hback

theorem Mentions.exists_append (hback : ∀ c ∈ back, isDigit c = false) {r : Reading}
    {text : List Char} (h : Mentions r text) :
    ∃ early, Mentions { r with early := early } (text ++ back) := by
  obtain ⟨hbefore, hrun, hunderscore, hmark, hbuild⟩ := h
  obtain ⟨early, rest, hmark', hbuild'⟩ := hmark.exists_append hback hbuild
  refine ⟨early, ?_⟩
  rw [List.append_assoc]
  exact .found hbefore (hrun.append hback) (hunderscore.append hback) hmark' hbuild'

theorem Mentions.append_left {front : List Char} (hfront : ∀ c ∈ front, isDigit c = false)
    {r : Reading} {text : List Char} (h : Mentions r text) : Mentions r (front ++ text) := by
  obtain ⟨hbefore, hrun, hunderscore, hmark, hbuild⟩ := h
  rw [← List.append_assoc]
  refine .found ?_ hrun hunderscore hmark hbuild
  intro c hc
  rcases List.mem_append.mp hc with hc | hc
  · exact hfront c hc
  · exact hbefore c hc

theorem Reading.Denotes.withEarly {r : Reading} {v : Version} (h : r.Denotes v) (early : Bool) :
    Reading.Denotes { r with early := early } { v with early := early } := by
  obtain ⟨hnumbers, hunderscore, hbuild⟩ := h
  rename_i numbers underscore build
  have hplaced : { Version.placed numbers underscore build r.early with early := early } =
      Version.placed numbers underscore build early := by
    unfold Version.placed
    split <;> rfl
  rw [hplaced]
  exact .placed hnumbers hunderscore hbuild

/-- Around a text that makes a version, other text without digits changes no number of it. -/
theorem parse?_around {front text : List Char} {v : Version}
    (hfront : ∀ c ∈ front, isDigit c = false) (hback : ∀ c ∈ back, isDigit c = false)
    (h : parse? text = some v) :
    ∃ early, parse? (front ++ (text ++ back)) = some { v with early := early } := by
  obtain ⟨r, hmentions, hdenotes, hfeature⟩ := parse?_eq_some_iff.mp h
  obtain ⟨early, hmore⟩ := hmentions.exists_append hback
  refine ⟨early, parse?_eq_some_iff.mpr ⟨_, hmore.append_left hfront, ?_, hfeature⟩⟩
  exact hdenotes.withEarly early

end NoDigits

/-! ## §2 White space -/

theorem isDigit_of_isBlank {c : Char} (h : isBlank c = true) : isDigit c = false := by
  have hall : ∀ n ∈ blankCodes, isDigit (Char.ofNat n) = false := by decide
  exact of_isBlank (p := fun c => isDigit c = false) hall h

section Blanks

variable {back : List Char}

/-- White space behind a text adds nothing to the beginnings without white space that it has. -/
theorem prefix_append_blanks_iff (hback : ∀ c ∈ back, isBlank c = true) {beginning s : List Char}
    (hsolid : ∀ c ∈ beginning, isBlank c = false) : beginning <+: s ++ back ↔ beginning <+: s := by
  constructor
  · intro h
    rcases List.prefix_or_prefix_of_prefix h (List.prefix_append s back) with hs | ⟨more, rfl⟩
    · exact hs
    · cases more with
      | nil => simp
      | cons c more =>
        -- The character after the text would be white space.
        have hmore : c :: more <+: back := (List.prefix_append_right_inj s).mp h
        have hblank := hback c (hmore.subset List.mem_cons_self)
        rw [hsolid c (by simp)] at hblank
        cases hblank
  · intro h
    exact h.trans (List.prefix_append s back)

theorem TakesMark.append_blanks (hback : ∀ c ∈ back, isBlank c = true) {early : Bool}
    {s rest : List Char} (h : TakesMark early s rest) :
    TakesMark early (s ++ back) (rest ++ back) := by
  cases h with
  | ea =>
    rw [List.append_assoc]
    exact .ea _
  | internal =>
    rw [List.append_assoc]
    exact .internal _
  | absent hea hinternal =>
    refine .absent ?_ ?_
    · rwa [prefix_append_blanks_iff hback (forall_of_all (by decide))]
    · rwa [prefix_append_blanks_iff hback (forall_of_all (by decide))]

theorem Mentions.append_blanks (hback : ∀ c ∈ back, isBlank c = true) {r : Reading}
    {text : List Char} (h : Mentions r text) : Mentions r (text ++ back) := by
  obtain ⟨hbefore, hrun, hunderscore, hmark, hbuild⟩ := h
  have hdigits : ∀ c ∈ back, isDigit c = false := fun c hc => isDigit_of_isBlank (hback c hc)
  rw [List.append_assoc]
  exact .found hbefore (hrun.append hdigits) (hunderscore.append hdigits)
    (hmark.append_blanks hback) (hbuild.append hdigits)

end Blanks

/-- It does not matter whether a text is trimmed before it is read. -/
theorem parse?_trim (text : List Char) : parse? (trim text) = parse? text := by
  obtain ⟨front, back, hfront, hback, htext⟩ := exists_eq_append_trim_append text
  have hread : read? (trim text) = read? text := by
    -- Blanks are no digits, so nothing is found in them.
    cases htrim : read? (trim text) with
    | none =>
      symm
      rw [read?_eq_none_iff] at htrim ⊢
      intro c hc
      rw [htext, List.mem_append, List.mem_append] at hc
      rcases hc with hc | hc | hc
      · exact isDigit_of_isBlank (hfront c hc)
      · exact htrim c hc
      · exact isDigit_of_isBlank (hback c hc)
    | some r =>
      symm
      rw [read?_eq_some_iff] at htrim ⊢
      rw [htext]
      exact (htrim.append_blanks hback).append_left fun c hc => isDigit_of_isBlank (hfront c hc)
  rw [parse?, parse?, hread]

/-! ## §3 Versions without marks -/

theorem LongestRun.suffix {runs : List (List Char)} {s rest : List Char}
    (h : LongestRun runs s rest) : rest <:+ s :=
  ⟨dotted runs, h.text_eq.symm⟩

theorem TakesSigned.suffix {sign s rest : List Char} {run : Option (List Char)}
    (h : TakesSigned sign run s rest) : rest <:+ s := by
  cases h with
  | taken => exact ⟨sign ++ _, List.append_assoc _ _ _⟩
  | absent => exact List.suffix_refl _

theorem TakesMark.of_no_hyphen {early : Bool} {s rest : List Char} (h : TakesMark early s rest)
    (hhyphen : '-' ∉ s) : early = false ∧ rest = s := by
  cases h with
  | ea => exact absurd (List.mem_append_left _ (by decide)) hhyphen
  | internal => exact absurd (List.mem_append_left _ (by decide)) hhyphen
  | absent => exact ⟨rfl, rfl⟩

theorem TakesBuild.of_no_sign {build : Option (List Char)} {s : List Char} (h : TakesBuild build s)
    (hplus : '+' ∉ s) (hhyphen : '-' ∉ s) : build = none := by
  cases h with
  | plus h =>
    cases h with
    | taken => exact absurd (List.mem_append_left _ List.mem_cons_self) hplus
  | hyphen h =>
    cases h with
    | taken => exact absurd (List.mem_append_left _ List.mem_cons_self) hhyphen
  | absent => rfl

/-- A text without plus signs and hyphens mentions neither a build number nor an early-access
version. -/
theorem Mentions.of_no_sign {r : Reading} {text : List Char} (h : Mentions r text)
    (hplus : '+' ∉ text) (hhyphen : '-' ∉ text) : r.early = false ∧ r.build = none := by
  obtain ⟨hbefore, hrun, hunderscore, hmark, hbuild⟩ := h
  rename_i before _ _ _ _
  have hsuffix := (hunderscore.suffix.trans hrun.suffix).trans (List.suffix_append before _)
  have hplus' := fun hmem => hplus (hsuffix.subset hmem)
  have hhyphen' := fun hmem => hhyphen (hsuffix.subset hmem)
  obtain ⟨hearly, rfl⟩ := hmark.of_no_hyphen hhyphen'
  exact ⟨hearly, hbuild.of_no_sign hplus' hhyphen'⟩

theorem build_and_early_of_no_sign {text : List Char} {v : Version} (h : parse? text = some v)
    (hplus : '+' ∉ text) (hhyphen : '-' ∉ text) : v.build = 0 ∧ v.early = false := by
  obtain ⟨r, hmentions, hdenotes, -⟩ := parse?_eq_some_iff.mp h
  obtain ⟨hearly, hbuild⟩ := hmentions.of_no_sign hplus hhyphen
  obtain ⟨hnumbers, hunderscore, hrel⟩ := hdenotes
  rw [hbuild] at hrel
  cases hrel
  unfold placed
  split
  · exact ⟨rfl, hearly⟩
  · exact ⟨rfl, hearly⟩

end JdkFinder.Version
