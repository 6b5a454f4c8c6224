import JdkFinder.Proofs.Json.Record
import JdkFinder.Proofs.Text.Words
import JdkFinder.Proofs.Version.RoundTrip
import Mathlib.Data.List.TakeWhile

/-!
# The grammar of versions

Which version a free text mentions is told by a grammar (`Version.Mentions`): what is read starts at
the leftmost decimal digit, and each of its parts is as long as it can be.  The parts are digits of
any script.  They make a version if all of them are ASCII numbers of 32 bits and the feature release
is in range (`Version.parse?_follows_grammar`).

The rules of the grammar say where a part ends by what must not come next (`Version.GoesOn`), and
not by a search.
-/

namespace JdkFinder.Version

open Text

/-! ## §1 The grammar -/

/-- The text starts with a sign and a digit behind it. -/
def GoesOn (sign s : List Char) : Prop :=
  ∃ c rest, s = sign ++ c :: rest ∧ isDigit c = true

/-- The longest run of digits, with dots between them, at the front of a text. -/
structure LongestRun (runs : List (List Char)) (s rest : List Char) : Prop where
  runs_ne_nil : runs ≠ []
  isRun : ∀ run ∈ runs, IsRun run
  text_eq : s = dotted runs ++ rest
  noDigit : ¬ GoesOn [] rest
  noDot : ¬ GoesOn ['.'] rest

/-- All the digits behind a sign, if the sign and a digit follow. -/
inductive TakesSigned (sign : List Char) : Option (List Char) → List Char → List Char → Prop
  | taken {run rest : List Char} (hrun : IsRun run) (hrest : ¬ GoesOn [] rest) :
      TakesSigned sign (some run) (sign ++ (run ++ rest)) rest
  | absent {s : List Char} (h : ¬ GoesOn sign s) : TakesSigned sign none s s

/-- An early-access mark, if one follows. -/
inductive TakesMark : Bool → List Char → List Char → Prop
  | ea (rest : List Char) : TakesMark true ("-ea".toList ++ rest) rest
  | internal (rest : List Char) : TakesMark true ("-internal".toList ++ rest) rest
  | absent {s : List Char} (hea : ¬ "-ea".toList <+: s) (hinternal : ¬ "-internal".toList <+: s) :
      TakesMark false s s

/-- A build number behind one of its two signs, if it follows. -/
inductive TakesBuild : Option (List Char) → List Char → Prop
  | plus {run s rest : List Char} (h : TakesSigned ['+'] (some run) s rest) :
      TakesBuild (some run) s
  | hyphen {run s rest : List Char} (h : TakesSigned ['-', 'b'] (some run) s rest) :
      TakesBuild (some run) s
  | absent {s : List Char} (hplus : ¬ GoesOn ['+'] s) (hhyphen : ¬ GoesOn ['-', 'b'] s) :
      TakesBuild none s

/-- The text mentions a version with these parts: they start at the leftmost digit, and what comes
behind the last of them does not matter. -/
inductive Mentions (r : Reading) : List Char → Prop
  | found {before atDigit afterRun afterUnderscore afterMark : List Char}
      (hbefore : ∀ c ∈ before, isDigit c = false)
      (hrun : LongestRun r.components atDigit afterRun)
      (hunderscore : TakesSigned ['_'] r.underscore afterRun afterUnderscore)
      (hmark : TakesMark r.early afterUnderscore afterMark)
      (hbuild : TakesBuild r.build afterMark) : Mentions r (before ++ atDigit)

/-! ## §2 Every text with a digit has parts -/

theorem goesOn_nil_iff {s : List Char} : GoesOn [] s ↔ startsWithDigit s = true := by
  constructor
  · rintro ⟨c, rest, rfl, hc⟩
    exact hc
  · intro h
    cases s with
    | nil => cases h
    | cons c rest => exact ⟨c, rest, rfl, h⟩

/-- Digits at the front of a text, all of them. -/
theorem exists_run {s : List Char} (h : startsWithDigit s = true) :
    ∃ run rest, s = run ++ rest ∧ IsRun run ∧ ¬ GoesOn [] rest := by
  refine ⟨s.takeWhile isDigit, s.dropWhile isDigit, List.takeWhile_append_dropWhile.symm,
    ⟨?_, fun c hc => List.mem_takeWhile_imp hc⟩, ?_⟩
  · cases s with
    | nil => cases h
    | cons c cs =>
      have hc : isDigit c = true := h
      simp [hc]
  · rintro ⟨c, rest, hrest, hc⟩
    have hhead := List.head?_dropWhile_not isDigit s
    rw [hrest] at hhead
    have hnot : isDigit c = false := hhead
    rw [hc] at hnot
    cases hnot

/-- Behind each dot that a digit follows the run starts anew. -/
theorem exists_longestRun (s : List Char) (h : startsWithDigit s = true) :
    ∃ runs rest, LongestRun runs s rest := by
  obtain ⟨run, tail, hs, hrun, hdigit⟩ := exists_run h
  -- The induction is on the length of the text: what follows a dot is shorter.
  by_cases hdot : GoesOn ['.'] tail
  · obtain ⟨c, cs, rfl, hc⟩ := hdot
    obtain ⟨runs, rest, hmore⟩ := exists_longestRun (c :: cs) hc
    obtain ⟨next, others, rfl⟩ := List.exists_cons_of_ne_nil hmore.runs_ne_nil
    refine ⟨run :: next :: others, rest, by simp, ?_, ?_, hmore.noDigit, hmore.noDot⟩
    · intro part hpart
      rcases List.mem_cons.mp hpart with rfl | hpart
      · exact hrun
      · exact hmore.isRun part hpart
    · rw [hs, hmore.text_eq, dotted_cons, List.append_assoc]
      rfl
  · refine ⟨[run], tail, by simp, ?_, ?_, hdigit, hdot⟩
    · intro part hpart
      cases List.mem_singleton.mp hpart
      exact hrun
    · rw [hs, dotted_singleton]
termination_by s.length
decreasing_by
  have hlength := congrArg List.length hs
  simp only [List.length_append, List.length_cons, List.length_nil] at hlength ⊢
  omega

theorem exists_takesSigned (sign s : List Char) : ∃ run rest, TakesSigned sign run s rest := by
  by_cases h : GoesOn sign s
  · obtain ⟨c, cs, rfl, hc⟩ := h
    obtain ⟨run, rest, hcs, hrun, hrest⟩ := exists_run (s := c :: cs) hc
    rw [hcs]
    exact ⟨some run, rest, .taken hrun hrest⟩
  · exact ⟨none, s, .absent h⟩

theorem exists_takesMark (s : List Char) : ∃ early rest, TakesMark early s rest := by
  by_cases hea : "-ea".toList <+: s
  · obtain ⟨rest, rfl⟩ := hea
    exact ⟨true, rest, .ea rest⟩
  · by_cases hinternal : "-internal".toList <+: s
    · obtain ⟨rest, rfl⟩ := hinternal
      exact ⟨true, rest, .internal rest⟩
    · exact ⟨false, s, .absent hea hinternal⟩

theorem exists_takesBuild (s : List Char) : ∃ build, TakesBuild build s := by
  obtain ⟨plus, rest, hplus⟩ := exists_takesSigned ['+'] s
  cases hplus with
  | taken hrun hrest => exact ⟨_, .plus (.taken hrun hrest)⟩
  | absent hnone =>
    obtain ⟨hyphen, rest, hhyphen⟩ := exists_takesSigned ['-', 'b'] s
    cases hhyphen with
    | taken hrun hrest => exact ⟨_, .hyphen (.taken hrun hrest)⟩
    | absent hnone' => exact ⟨none, .absent hnone hnone'⟩

/-- A text with a digit mentions a version, be it a sound one or not. -/
theorem exists_mentions {text : List Char} {c : Char} (hc : c ∈ text) (hdigit : isDigit c = true) :
    ∃ r, Mentions r text := by
  -- The text from its first digit on; each part of the version is then taken where the one before
  -- it ends.
  have hsplit : text = text.takeWhile (!isDigit ·) ++ text.dropWhile (!isDigit ·) :=
    List.takeWhile_append_dropWhile.symm
  have hbefore : ∀ d ∈ text.takeWhile (!isDigit ·), isDigit d = false := by
    intro d hd
    simpa using List.mem_takeWhile_imp hd
  have hstart : startsWithDigit (text.dropWhile (!isDigit ·)) = true := by
    cases hdrop : text.dropWhile (!isDigit ·) with
    | nil =>
      have hnot := List.dropWhile_eq_nil_iff.mp hdrop c hc
      rw [hdigit] at hnot
      cases hnot
    | cons d rest =>
      have hhead := List.head?_dropWhile_not (!isDigit ·) text
      rw [hdrop] at hhead
      show isDigit d = true
      simpa using hhead
  obtain ⟨components, afterRun, hrun⟩ := exists_longestRun _ hstart
  obtain ⟨underscore, afterUnderscore, hunderscore⟩ := exists_takesSigned ['_'] afterRun
  obtain ⟨early, afterMark, hmark⟩ := exists_takesMark afterUnderscore
  obtain ⟨build, hbuild⟩ := exists_takesBuild afterMark
  rw [hsplit]
  exact ⟨⟨components, underscore, early, build⟩, .found hbefore hrun hunderscore hmark hbuild⟩

/-! ## §3 The reader finds the parts -/

theorem takeRun_of_not_goesOn {rest : List Char} (hdigit : ¬ GoesOn [] rest)
    (hdot : ¬ GoesOn ['.'] rest) : takeRun rest = ([], rest) := by
  cases rest with
  | nil => rfl
  | cons c cs =>
    have hc : isDigit c = false := by
      simpa [goesOn_nil_iff, startsWithDigit] using hdigit
    -- A dot may follow, but then no digit stands behind it.
    have hcs : (c == '.' && startsWithDigit cs) = false := by
      rw [Bool.and_eq_false_imp, beq_iff_eq]
      rintro rfl
      rw [Bool.eq_false_iff]
      intro hstart
      obtain ⟨d, ds, rfl, hd⟩ := goesOn_nil_iff.mpr hstart
      exact hdot ⟨d, ds, rfl, hd⟩
    rw [takeRun, hc, hcs]
    rfl

theorem LongestRun.takeRun_eq {runs : List (List Char)} {s rest : List Char}
    (h : LongestRun runs s rest) : takeRun s = (dotted runs, rest) := by
  rw [h.text_eq]
  exact takeRun_dotted h.runs_ne_nil h.isRun (takeRun_of_not_goesOn h.noDigit h.noDot)

theorem head_of_not_goesOn {rest : List Char} (h : ¬ GoesOn [] rest) :
    ∀ c ∈ rest.head?, isDigit c = false := by
  intro c hc
  rw [Bool.eq_false_iff]
  intro hdigit
  obtain ⟨cs, rfl⟩ := List.head?_eq_some_iff.mp hc
  exact h ⟨c, cs, rfl, hdigit⟩

theorem TakesSigned.takeSigned?_eq {sign run s rest : List Char}
    (h : TakesSigned sign (some run) s rest) : takeSigned? sign s = some (run, rest) := by
  cases h with
  | taken hrun hrest => exact takeSigned?_run hrun (head_of_not_goesOn hrest)

theorem takeSigned?_of_not_goesOn {sign s : List Char} (h : ¬ GoesOn sign s) :
    takeSigned? sign s = none := by
  rw [takeSigned?]
  cases hstrip : stripPrefix? sign s with
  | none => rfl
  | some rest =>
    have hrest : startsWithDigit rest = false := by
      rw [Bool.eq_false_iff]
      intro hstart
      obtain ⟨c, cs, rfl, hc⟩ := goesOn_nil_iff.mpr hstart
      exact h ⟨c, cs, stripPrefix?_eq_some_iff.mp hstrip, hc⟩
    simp [hrest]

theorem TakesSigned.takeUnderscore_eq {underscore : Option (List Char)} {s rest : List Char}
    (h : TakesSigned ['_'] underscore s rest) : takeUnderscore s = (underscore, rest) := by
  rw [takeUnderscore]
  cases underscore with
  | none =>
    cases h with
    | absent hnone => rw [takeSigned?_of_not_goesOn hnone]
  | some run => rw [h.takeSigned?_eq]

theorem stripPrefix?_eq_none_of_not {beginning s : List Char} (h : ¬ beginning <+: s) :
    stripPrefix? beginning s = none := by
  cases hstrip : stripPrefix? beginning s with
  | none => rfl
  | some rest => exact absurd ⟨rest, (stripPrefix?_eq_some_iff.mp hstrip).symm⟩ h

theorem TakesMark.takeEarly_eq {early : Bool} {s rest : List Char} (h : TakesMark early s rest) :
    takeEarly s = (early, rest) := by
  rw [takeEarly]
  cases h with
  | ea => rw [stripPrefix?_append]
  | internal =>
    -- The two marks differ behind the hyphen.
    have hea : stripPrefix? "-ea".toList ("-internal".toList ++ rest) = none := by
      simp [stripPrefix?]
    rw [hea, stripPrefix?_append]
  | absent hea hinternal =>
    rw [stripPrefix?_eq_none_of_not hea, stripPrefix?_eq_none_of_not hinternal]

theorem TakesBuild.takeBuild_eq {build : Option (List Char)} {s : List Char}
    (h : TakesBuild build s) : takeBuild s = build := by
  rw [takeBuild]
  cases h with
  | plus h => rw [h.takeSigned?_eq, Option.some_or, Option.map_some]
  | hyphen h =>
    have hplus : takeSigned? ['+'] s = none := by
      cases h with
      | taken => exact takeSigned?_eq_none (by simp)
    rw [hplus, h.takeSigned?_eq, Option.none_or, Option.map_some]
  | absent hplus hhyphen =>
    rw [takeSigned?_of_not_goesOn hplus, takeSigned?_of_not_goesOn hhyphen]
    rfl

theorem Mentions.read?_eq {r : Reading} {text : List Char} (h : Mentions r text) :
    read? text = some r := by
  obtain ⟨hbefore, hrun, hunderscore, hmark, hbuild⟩ := h
  have hstart := startsWithDigit_dotted hrun.runs_ne_nil hrun.isRun
  rw [read?_append hbefore (hrun.text_eq ▸ hstart _), readHere, hrun.takeRun_eq]
  simp only [hunderscore.takeUnderscore_eq, hmark.takeEarly_eq, hbuild.takeBuild_eq,
    splitOn_dotted hrun.runs_ne_nil hrun.isRun]

theorem read?_eq_none_iff {text : List Char} :
    read? text = none ↔ ∀ c ∈ text, isDigit c = false := by
  constructor
  · intro hnone c hc
    -- A digit would be mentioned in a version, and the text would be read.
    rw [Bool.eq_false_iff]
    intro hdigit
    obtain ⟨r, hr⟩ := exists_mentions hc hdigit
    rw [hr.read?_eq] at hnone
    cases hnone
  · intro h
    have hdrop : text.dropWhile (!isDigit ·) = [] := by
      rw [List.dropWhile_eq_nil_iff]
      intro c hc
      rw [h c hc, Bool.not_false]
    rw [read?, hdrop]

/-- A text mentions the version whose parts the reader finds, and no other one. -/
theorem read?_eq_some_iff {text : List Char} {r : Reading} :
    read? text = some r ↔ Mentions r text := by
  refine ⟨fun h => ?_, Mentions.read?_eq⟩
  by_cases hdigits : ∀ c ∈ text, isDigit c = false
  · rw [read?_eq_none_iff.mpr hdigits] at h
    cases h
  · push Not at hdigits
    obtain ⟨c, hc, hdigit⟩ := hdigits
    obtain ⟨r', hr'⟩ := exists_mentions hc (Bool.not_eq_false _ ▸ hdigit)
    rw [hr'.read?_eq] at h
    cases h
    exact hr'

/-! ## §4 What the parts mean -/

/-- The numbers of a version by their places.  If the first of two or more is 1, the second one is
the feature release. -/
def placed (numbers : List UInt32) (underscore build : Option UInt32) (early : Bool) : Version :=
  if numbers[0]? = some 1 ∧ 2 ≤ numbers.length then
    { feature := numbers[1]?.getD 0
      interim := 0
      update := (underscore.or numbers[3]?).getD 0
      patch := 0
      build := build.getD 0
      early }
  else
    { feature := numbers[0]?.getD 0
      interim := numbers[1]?.getD 0
      update := (numbers[2]?.or underscore).getD 0
      patch := numbers[3]?.getD 0
      build := build.getD 0
      early }

theorem ofNumbers_eq_placed (numbers : List UInt32) (underscore build : Option UInt32)
    (early : Bool) : ofNumbers numbers underscore build early =
      placed numbers underscore build early := by
  match numbers with
  | [] => cases underscore <;> rfl
  | [first] => cases underscore <;> simp [ofNumbers, placed]
  | first :: second :: rest =>
    by_cases hone : first = 1
    · cases underscore <;> simp [ofNumbers, placed, hone]
    · simp [ofNumbers, placed, hone]

/-- All runs of digits among the parts. -/
def Reading.runs (r : Reading) : List (List Char) :=
  r.components ++ r.underscore.toList ++ r.build.toList

/-- The parts are numbers, and these make the version. -/
inductive Reading.Denotes (r : Reading) : Version → Prop
  | placed {numbers : List UInt32} {underscore build : Option UInt32}
      (hnumbers : List.Forall₂ IsNumeral r.components numbers)
      (hunderscore : Option.Rel IsNumeral r.underscore underscore)
      (hbuild : Option.Rel IsNumeral r.build build) :
      r.Denotes (placed numbers underscore build r.early)

theorem TakesSigned.isRun {sign run s rest : List Char} (h : TakesSigned sign (some run) s rest) :
    IsRun run := by
  cases h with
  | taken hrun hrest => exact hrun

theorem Mentions.isRun {r : Reading} {text : List Char} (h : Mentions r text) :
    ∀ run ∈ r.runs, IsRun run := by
  obtain ⟨-, hrun, hunderscore, -, hbuild⟩ := h
  intro run hmem
  simp only [Reading.runs, List.mem_append, Option.mem_toList] at hmem
  rcases hmem with (hmem | hmem) | hmem
  · exact hrun.isRun run hmem
  · rw [hmem] at hunderscore
    exact hunderscore.isRun
  · rw [hmem] at hbuild
    cases hbuild with
    | plus h => exact h.isRun
    | hyphen h => exact h.isRun

theorem IsRun.word32?_eq_some_iff {run : List Char} (h : IsRun run) {n : UInt32} :
    word32? run = some n ↔ IsNumeral run n := by
  apply Text.word32?_eq_some_iff
  rintro c hc rfl
  have hplus : isDigit '+' = true := h.2 '+' (List.mem_of_mem_head? hc)
  exact absurd hplus (by decide)

theorem optionalWord?_eq_some_iff {part : Option (List Char)} {n : Option UInt32}
    (h : ∀ run ∈ part, IsRun run) :
    optionalWord? part = some n ↔ Option.Rel IsNumeral part n := by
  cases part with
  | none =>
    rw [optionalWord?, Option.some_inj]
    constructor
    · rintro rfl
      exact .none
    · rintro (_ | _)
      rfl
  | some run =>
    rw [optionalWord?, Option.map_eq_some_iff]
    simp only [(h run rfl).word32?_eq_some_iff]
    constructor
    · rintro ⟨n, hn, rfl⟩
      exact .some hn
    · rintro (hn | _)
      exact ⟨_, hn, rfl⟩

theorem mapM_word32?_eq_some_iff {runs : List (List Char)} {numbers : List UInt32}
    (h : ∀ run ∈ runs, IsRun run) :
    runs.mapM word32? = some numbers ↔ List.Forall₂ IsNumeral runs numbers := by
  rw [Json.mapM_eq_some_iff_forall₂]
  induction runs generalizing numbers with
  | nil => simp
  | cons run runs ih =>
    have hothers : ∀ r ∈ runs, IsRun r := fun r hr => h r (List.mem_cons_of_mem run hr)
    cases numbers with
    | nil => simp
    | cons n numbers =>
      rw [List.forall₂_cons, List.forall₂_cons, ih hothers,
        (h run List.mem_cons_self).word32?_eq_some_iff]

/-- Runs of digits make the version that they denote, if its feature release is in range. -/
theorem Reading.toVersion?_eq_some_iff {r : Reading} {v : Version} (h : ∀ run ∈ r.runs, IsRun run) :
    r.toVersion? = some v ↔ r.Denotes v ∧ isFeature v.feature = true := by
  have hcomponents : ∀ run ∈ r.components, IsRun run := fun run hrun => h run (by simp [runs, hrun])
  have hunder : ∀ run ∈ r.underscore, IsRun run :=
    fun run hrun => h run (by simp [runs, Option.mem_def.mp hrun])
  have hbuilt : ∀ run ∈ r.build, IsRun run :=
    fun run hrun => h run (by simp [runs, Option.mem_def.mp hrun])
  unfold toVersion?
  constructor
  · intro hversion
    -- Every run is a numeral that fits, or the text denotes no version.
    split at hversion
    · rename_i numbers underscore build hnumbers hunderscore hbuild
      obtain ⟨hfeature, hv⟩ := Option.ite_none_right_eq_some.mp hversion
      rw [ofNumbers_eq_placed] at hfeature hv
      cases hv
      exact ⟨.placed ((mapM_word32?_eq_some_iff hcomponents).mp hnumbers)
        ((optionalWord?_eq_some_iff hunder).mp hunderscore)
        ((optionalWord?_eq_some_iff hbuilt).mp hbuild), hfeature⟩
    · cases hversion
  · rintro ⟨⟨hnumbers, hunderscore, hbuild⟩, hfeature⟩
    rw [(mapM_word32?_eq_some_iff hcomponents).mpr hnumbers,
      (optionalWord?_eq_some_iff hunder).mpr hunderscore,
      (optionalWord?_eq_some_iff hbuilt).mpr hbuild]
    dsimp only
    rw [ofNumbers_eq_placed, if_pos hfeature]

theorem exists_forall₂_iff {runs : List (List Char)} :
    (∃ numbers, List.Forall₂ IsNumeral runs numbers) ↔ ∀ run ∈ runs, ∃ n, IsNumeral run n := by
  induction runs with
  | nil => simp
  | cons run runs ih =>
    rw [List.forall_mem_cons, ← ih]
    constructor
    · rintro ⟨_, hhead | ⟨hn, hnumbers⟩⟩
      exact ⟨⟨_, hn⟩, ⟨_, hnumbers⟩⟩
    · rintro ⟨⟨n, hn⟩, ⟨numbers, hnumbers⟩⟩
      exact ⟨n :: numbers, .cons hn hnumbers⟩

theorem exists_rel_iff {part : Option (List Char)} :
    (∃ n, Option.Rel IsNumeral part n) ↔ ∀ run, part = some run → ∃ n, IsNumeral run n := by
  cases part with
  | none =>
    constructor
    · rintro - run hrun
      cases hrun
    · intro _
      exact ⟨none, .none⟩
  | some run =>
    constructor
    · rintro ⟨_, hn | _⟩ _ ⟨⟩
      exact ⟨_, hn⟩
    · intro h
      obtain ⟨n, hn⟩ := h run rfl
      exact ⟨some n, .some hn⟩

/-- Parts denote a version if all their runs are numbers, also those that find no place in it. -/
theorem Reading.exists_denotes_iff {r : Reading} :
    (∃ v, r.Denotes v) ↔ ∀ run ∈ r.runs, ∃ n, IsNumeral run n := by
  simp only [runs, List.forall_mem_append, Option.mem_toList, ← exists_forall₂_iff,
    ← exists_rel_iff]
  constructor
  · rintro ⟨_, hnumbers, hunderscore, hbuild⟩
    exact ⟨⟨⟨_, hnumbers⟩, ⟨_, hunderscore⟩⟩, ⟨_, hbuild⟩⟩
  · rintro ⟨⟨⟨_, hnumbers⟩, ⟨_, hunderscore⟩⟩, ⟨_, hbuild⟩⟩
    exact ⟨_, .placed hnumbers hunderscore hbuild⟩

theorem rightUnique_isNumeral : Relator.RightUnique IsNumeral := by
  intro run m n hm hn
  have hsame := hm.word32?_eq
  rw [hn.word32?_eq] at hsame
  exact (Option.some.inj hsame).symm

theorem eq_of_rel {part : Option (List Char)} {m n : Option UInt32}
    (hm : Option.Rel IsNumeral part m) (hn : Option.Rel IsNumeral part n) : m = n := by
  cases hm with
  | none =>
    cases hn
    rfl
  | some hm =>
    cases hn with
    | some hn => rw [rightUnique_isNumeral hm hn]

theorem Reading.Denotes.unique {r : Reading} {v w : Version} (hv : r.Denotes v)
    (hw : r.Denotes w) : v = w := by
  obtain ⟨hnumbers, hunderscore, hbuild⟩ := hv
  obtain ⟨hnumbers', hunderscore', hbuild'⟩ := hw
  rw [rightUnique_isNumeral.forall₂ hnumbers hnumbers', eq_of_rel hunderscore hunderscore',
    eq_of_rel hbuild hbuild']

/-! ## §5 Which texts make a version -/

theorem parse?_eq_some_iff {text : List Char} {v : Version} :
    parse? text = some v ↔
      ∃ r, Mentions r text ∧ r.Denotes v ∧ 1 ≤ v.feature ∧ v.feature ≤ 99 := by
  rw [parse?, Option.bind_eq_some_iff]
  refine exists_congr fun r => ?_
  rw [read?_eq_some_iff, ← isFeature_iff]
  refine and_congr_right fun hmentions => ?_
  exact Reading.toVersion?_eq_some_iff hmentions.isRun

/-- A text makes the version that the parts at its leftmost digit denote, if they denote one with a
feature release in range, and it makes none if it has no digit, if one of the parts is not a
number, or if the feature release is out of range. -/
theorem parse?_follows_grammar (text : List Char) :
    (parse? text = none ↔
      (∀ c ∈ text, isDigit c = false) ∨
        ∃ r, Mentions r text ∧
          ((∃ run ∈ r.runs, ∀ n, ¬ IsNumeral run n) ∨
            ∃ v, r.Denotes v ∧ ¬ (1 ≤ v.feature ∧ v.feature ≤ 99))) ∧
    ∀ v, parse? text = some v ↔
      ∃ r, Mentions r text ∧ r.Denotes v ∧ 1 ≤ v.feature ∧ v.feature ≤ 99 := by
  refine ⟨?_, fun v => parse?_eq_some_iff⟩
  constructor
  · intro hnone
    cases hread : read? text with
    | none => exact .inl (read?_eq_none_iff.mp hread)
    | some r =>
      have hmentions := read?_eq_some_iff.mp hread
      refine .inr ⟨r, hmentions, ?_⟩
      -- Numbers make a version, so it is the feature release that is out of range.
      by_cases hnumerals : ∀ run ∈ r.runs, ∃ n, IsNumeral run n
      · obtain ⟨v, hv⟩ := Reading.exists_denotes_iff.mpr hnumerals
        refine .inr ⟨v, hv, fun hfeature => ?_⟩
        rw [parse?_eq_some_iff.mpr ⟨r, hmentions, hv, hfeature⟩] at hnone
        cases hnone
      · push Not at hnumerals
        exact .inl hnumerals
  · rintro (hdigits | ⟨r, hmentions, hbad⟩)
    · rw [parse?, read?_eq_none_iff.mpr hdigits, Option.bind_none]
    · -- The parts are the only ones, so a version would have to be made of them.
      rw [parse?, hmentions.read?_eq, Option.bind_some, Option.eq_none_iff_forall_ne_some]
      intro w hw
      obtain ⟨hdenotes, hfeature⟩ := (Reading.toVersion?_eq_some_iff hmentions.isRun).mp hw
      rcases hbad with ⟨run, hrun, hno⟩ | ⟨v, hv, hout⟩
      · obtain ⟨n, hn⟩ := Reading.exists_denotes_iff.mp ⟨w, hdenotes⟩ run hrun
        exact hno n hn
      · cases hv.unique hdenotes
        exact hout (isFeature_iff.mp hfeature)

/-- The year decides, and the version behind it is not tried. -/
example : parse? "2022-01-18 openjdk 17.0.2".toList = none := by decide

end JdkFinder.Version
