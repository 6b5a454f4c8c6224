import JdkFinder.Proofs.Text.Decimal
import JdkFinder.Proofs.Text.Pieces
import JdkFinder.Version

/-!
# Reading written versions

The text in which a version is written can be read back, also inside a longer text.  What comes back
is the version without the numbers that the text leaves out (`Version.written`).
-/

namespace JdkFinder.Version

open Text

/-! ## §1 The parts of a written version -/

/-- The numbers between the dots. -/
def components (v : Version) : List UInt32 :=
  if v.feature ≤ 8 then [1, v.feature, 0]
  else [v.feature, v.interim, v.update] ++ if v.patch = 0 then [] else [v.patch]

/-- The number after the underscore. -/
def underscored (v : Version) : Option UInt32 :=
  if v.feature ≤ 8 ∧ v.update ≠ 0 then some v.update else none

/-- What the written form says of a version: it leaves out the build number, and up to release 8 the
interim and patch numbers. -/
def written (v : Version) : Version :=
  if v.feature ≤ 8 then ⟨v.feature, 0, v.update, 0, 0, v.early⟩ else { v with build := 0 }

theorem written_of_new {v : Version} (h : ¬ v.feature ≤ 8) :
    v.written = { v with build := 0 } := by
  rw [written, if_neg h]

theorem written_of_old {v : Version} (h : v.feature ≤ 8) :
    v.written = ⟨v.feature, 0, v.update, 0, 0, v.early⟩ := by
  rw [written, if_pos h]

/-- The version loses nothing but its build number when it is written: no number is left out that
is not zero. -/
def KeepsNumbers (v : Version) : Prop :=
  9 ≤ v.feature ∨ (v.interim = 0 ∧ v.patch = 0)

/-- A written version lacks the build number only, unless an old release has an interim or a patch
number. -/
theorem written_eq {v : Version} (h : v.KeepsNumbers) :
    v.written = { v with build := 0 } := by
  by_cases hold : v.feature ≤ 8
  · rcases h with hnew | ⟨hinterim, hpatch⟩
    · exact absurd (UInt32.le_trans hnew hold) (by decide)
    · rw [written_of_old hold]
      obtain ⟨feature, interim, update, patch, build, early⟩ := v
      cases hinterim
      cases hpatch
      rfl
  · exact written_of_new hold

/-- Runs of digits with dots between them. -/
def dotted (runs : List (List Char)) : List Char :=
  ['.'].intercalate runs

/-- The early-access mark of a written version. -/
def mark (early : Bool) : List Char :=
  if early then "-ea".toList else []

@[simp] theorem mark_true : mark true = "-ea".toList :=
  rfl

@[simp] theorem mark_false : mark false = [] :=
  rfl

/-- Numbers with dots between them, a number behind an underscore, and the early-access mark. -/
def writeParts (numbers : List UInt32) (underscore : Option UInt32) (early : Bool) : List Char :=
  dotted (numbers.map (decimal ·.toNat)) ++ (underscore.elim [] fun n => '_' :: decimal n.toNat) ++
    mark early

theorem writeParts_none (numbers : List UInt32) :
    writeParts numbers none false = dotted (numbers.map (decimal ·.toNat)) := by
  simp [writeParts, mark]

theorem writeParts_append (numbers : List UInt32) (underscore : Option UInt32) :
    writeParts numbers underscore false =
      writeParts numbers none false ++ underscore.elim [] fun n => '_' :: decimal n.toNat := by
  simp [writeParts, mark]

theorem format_eq (v : Version) :
    v.format = writeParts v.components v.underscored v.early := by
  have hone : decimal 1 = ['1'] := rfl
  have hzero : decimal 0 = ['0'] := rfl
  rw [format, writeParts, mark]
  congr 1
  -- The old notation has an update or not, the new one a patch or not.
  by_cases hold : v.feature ≤ 8
  · by_cases hupdate : v.update = 0
    all_goals
      simp [components, underscored, dotted, label, suffixUnlessZero, hold, hupdate, hone, hzero,
        List.intercalate, List.intersperse]
  · by_cases hpatch : v.patch = 0
    all_goals
      simp [components, underscored, dotted, label, suffixUnlessZero, hold, hpatch,
        List.intercalate, List.intersperse]

/-! ## §2 Reading the parts -/

theorem takeRun_digits {run : List Char} (h : ∀ c ∈ run, isDigit c = true) (rest : List Char) :
    takeRun (run ++ rest) = (run ++ (takeRun rest).1, (takeRun rest).2) := by
  induction run with
  | nil => rfl
  | cons c cs ih =>
    have hc : isDigit c = true := h c List.mem_cons_self
    have hcs := ih fun d hd => h d (List.mem_cons_of_mem c hd)
    simp only [List.cons_append, takeRun, hc, Bool.true_or, ↓reduceIte, hcs]

/-- A rest of a text with which a run of digits and dots does not go on. -/
def EndsRun (rest : List Char) : Prop :=
  ∀ c ∈ rest.head?, isDigit c = false ∧ c ≠ '.'

theorem takeRun_of_endsRun {rest : List Char} (h : EndsRun rest) : takeRun rest = ([], rest) := by
  cases rest with
  | nil => rfl
  | cons c cs =>
    obtain ⟨hdigit, hdot⟩ := h c rfl
    simp [takeRun, hdigit, hdot]

/-- Digits of a number: any run of digits that is not empty. -/
def IsRun (run : List Char) : Prop :=
  run ≠ [] ∧ ∀ c ∈ run, isDigit c = true

theorem isRun_decimal (n : Nat) : IsRun (decimal n) :=
  ⟨decimal_ne_nil n, fun _ => isDigit_of_mem_decimal⟩

theorem startsWithDigit_append {run : List Char} (h : IsRun run) (rest : List Char) :
    startsWithDigit (run ++ rest) = true := by
  obtain ⟨hne, hdigits⟩ := h
  cases run with
  | nil => exact absurd rfl hne
  | cons c cs => exact hdigits c List.mem_cons_self

theorem dotted_cons (run next : List Char) (runs : List (List Char)) :
    dotted (run :: next :: runs) = run ++ '.' :: dotted (next :: runs) := by
  rw [dotted, dotted, List.intercalate_cons_cons, List.append_assoc, List.singleton_append]

theorem dotted_singleton (run : List Char) : dotted [run] = run :=
  List.intercalate_singleton

theorem startsWithDigit_dotted {runs : List (List Char)} (hne : runs ≠ [])
    (hruns : ∀ run ∈ runs, IsRun run) (rest : List Char) :
    startsWithDigit (dotted runs ++ rest) = true := by
  obtain ⟨run, runs, rfl⟩ := List.exists_cons_of_ne_nil hne
  have hrun : IsRun run := hruns run List.mem_cons_self
  cases runs with
  | nil =>
    rw [dotted_singleton]
    exact startsWithDigit_append hrun rest
  | cons next runs =>
    rw [dotted_cons, List.append_assoc]
    exact startsWithDigit_append hrun _

/-- The run goes through all dots, and it ends where the digits do. -/
theorem takeRun_dotted {runs : List (List Char)} {rest : List Char} (hne : runs ≠ [])
    (hruns : ∀ run ∈ runs, IsRun run) (hrest : takeRun rest = ([], rest)) :
    takeRun (dotted runs ++ rest) = (dotted runs, rest) := by
  -- On the runs; a run that is followed by another goes on behind its dot.
  induction runs with
  | nil => exact absurd rfl hne
  | cons run runs ih =>
    have hrun : IsRun run := hruns run List.mem_cons_self
    cases runs with
    | nil =>
      rw [dotted_singleton, takeRun_digits hrun.2, hrest, List.append_nil]
    | cons next runs =>
      have hothers : ∀ r ∈ next :: runs, IsRun r :=
        fun r hr => hruns r (List.mem_cons_of_mem run hr)
      have hmore : takeRun (dotted (next :: runs) ++ rest) = (dotted (next :: runs), rest) :=
        ih (by simp) hothers
      have hdigit : startsWithDigit (dotted (next :: runs) ++ rest) = true :=
        startsWithDigit_dotted (by simp) hothers rest
      have hdot : takeRun ('.' :: (dotted (next :: runs) ++ rest)) =
          ('.' :: dotted (next :: runs), rest) := by
        simp only [takeRun, hdigit, hmore, beq_self_eq_true, Bool.and_self, Bool.or_true,
          ↓reduceIte]
      rw [dotted_cons, List.append_assoc, takeRun_digits hrun.2, List.cons_append, hdot]

theorem splitOn_dotted {runs : List (List Char)} (hne : runs ≠ [])
    (hruns : ∀ run ∈ runs, IsRun run) : (dotted runs).splitOn '.' = runs := by
  refine List.splitOn_intercalate '.' ?_ hne
  intro run hrun hdot
  have hdigit := (hruns run hrun).2 '.' hdot
  revert hdigit
  decide

/-- A sign with digits after it is taken off. -/
theorem takeSigned?_run {sign run rest : List Char} (hrun : IsRun run)
    (hrest : ∀ c ∈ rest.head?, isDigit c = false) :
    takeSigned? sign (sign ++ (run ++ rest)) = some (run, rest) := by
  rw [takeSigned?, stripPrefix?_append]
  simp only [startsWithDigit_append hrun, ↓reduceIte, takeWhile_run hrun.2 hrest,
    dropWhile_run hrun.2 hrest]

theorem takeSigned?_eq_none {b : Char} {sign s : List Char} (h : ∀ c ∈ s.head?, c ≠ b) :
    takeSigned? (b :: sign) s = none := by
  rw [takeSigned?, stripPrefix?_eq_none h]

/-! ## §3 Reading the whole -/

/-- What may stand behind a written version without being taken for a part of it; a build number is
such a thing. -/
def Follows (tail : List Char) : Prop :=
  ∀ c ∈ tail.head?, isDigit c = false ∧ c ≠ '.' ∧ c ≠ '_' ∧ c ≠ '-'

theorem takeEarly_mark (early : Bool) {tail : List Char} (htail : Follows tail) :
    takeEarly (mark early ++ tail) = (early, tail) := by
  cases early with
  | true =>
    have hstrip := stripPrefix?_append "-ea".toList tail
    simp only [takeEarly, mark_true, hstrip]
  | false =>
    have hhyphen : ∀ c ∈ tail.head?, c ≠ '-' := fun c hc => (htail c hc).2.2.2
    have hea : stripPrefix? "-ea".toList tail = none := stripPrefix?_eq_none hhyphen
    have hinternal : stripPrefix? "-internal".toList tail = none := stripPrefix?_eq_none hhyphen
    simp only [takeEarly, mark_false, List.nil_append, hea, hinternal]

/-- Behind the numbers a written version goes on with a hyphen, if it goes on at all. -/
theorem head_mark (early : Bool) {tail : List Char} (htail : Follows tail) :
    ∀ c ∈ (mark early ++ tail).head?, isDigit c = false ∧ c ≠ '.' ∧ c ≠ '_' := by
  cases early with
  | true =>
    intro c hc
    cases hc
    decide
  | false =>
    intro c hc
    obtain ⟨hdigit, hdot, hunderscore, -⟩ := htail c hc
    exact ⟨hdigit, hdot, hunderscore⟩

/-- The parts of a written version are told apart again. -/
theorem readHere_writeParts {numbers : List UInt32} (hnumbers : numbers ≠ [])
    (underscore : Option UInt32) (early : Bool) {tail : List Char} (htail : Follows tail) :
    readHere (writeParts numbers underscore early ++ tail) =
      ⟨numbers.map (decimal ·.toNat), underscore.map (decimal ·.toNat), early,
        takeBuild tail⟩ := by
  -- The numbers are read as far as what follows them lets them, with an update behind them or not.
  have hne : numbers.map (decimal ·.toNat) ≠ [] := fun h => hnumbers (List.map_eq_nil_iff.mp h)
  have hruns : ∀ run ∈ numbers.map (decimal ·.toNat), IsRun run := by
    intro run hrun
    obtain ⟨n, -, rfl⟩ := List.mem_map.mp hrun
    exact isRun_decimal n.toNat
  have hmark := head_mark early htail
  rw [writeParts, List.append_assoc, List.append_assoc]
  cases underscore with
  | none =>
    have hends : takeRun (mark early ++ tail) = ([], mark early ++ tail) :=
      takeRun_of_endsRun fun c hc => ⟨(hmark c hc).1, (hmark c hc).2.1⟩
    have hnone : takeUnderscore (mark early ++ tail) = (none, mark early ++ tail) := by
      rw [takeUnderscore, takeSigned?_eq_none fun c hc => (hmark c hc).2.2]
    simp only [Option.elim_none, List.nil_append, readHere, takeRun_dotted hne hruns hends, hnone,
      takeEarly_mark early htail, splitOn_dotted hne hruns, Option.map_none]
  | some n =>
    have hends : takeRun ('_' :: decimal n.toNat ++ (mark early ++ tail)) =
        ([], '_' :: decimal n.toNat ++ (mark early ++ tail)) := by
      refine takeRun_of_endsRun fun c hc => ?_
      cases hc
      decide
    have hsome : takeUnderscore ('_' :: decimal n.toNat ++ (mark early ++ tail)) =
        (some (decimal n.toNat), mark early ++ tail) := by
      have hsigned : takeSigned? ['_'] ('_' :: decimal n.toNat ++ (mark early ++ tail)) =
          some (decimal n.toNat, mark early ++ tail) :=
        takeSigned?_run (isRun_decimal n.toNat) fun c hc => (hmark c hc).1
      rw [takeUnderscore, hsigned]
    simp only [Option.elim_some, readHere, takeRun_dotted hne hruns hends, hsome,
      takeEarly_mark early htail, splitOn_dotted hne hruns, Option.map_some]

theorem mapM_word32?_decimal (numbers : List UInt32) :
    (numbers.map (decimal ·.toNat)).mapM word32? = some numbers := by
  induction numbers with
  | nil => rfl
  | cons n rest ih => simp [word32?_decimal, ih]

theorem optionalWord?_decimal (n : Option UInt32) :
    optionalWord? (n.map (decimal ·.toNat)) = some n := by
  cases n with
  | none => rfl
  | some n => simp [optionalWord?, word32?_decimal]

theorem ofNumbers_components (v : Version) (build : Option UInt32) :
    ofNumbers v.components v.underscored build v.early =
      { v.written with build := build.getD 0 } := by
  by_cases hold : v.feature ≤ 8
  · by_cases hupdate : v.update = 0
    all_goals simp [ofNumbers, components, underscored, written, hold, hupdate]
  · -- A release from 9 on is not mistaken for the old numbering.
    have hone : v.feature ≠ 1 := by
      intro h
      rw [h] at hold
      exact hold (by decide)
    by_cases hpatch : v.patch = 0
    all_goals simp [ofNumbers, components, underscored, written, hold, hone, hpatch]

/-- Parts start with the first digit of the first number. -/
theorem exists_writeParts_eq_cons {numbers : List UInt32} (hnumbers : numbers ≠ [])
    (underscore : Option UInt32) (early : Bool) :
    ∃ c cs, writeParts numbers underscore early = c :: cs ∧ c.isDigit = true := by
  obtain ⟨first, rest, rfl⟩ := List.exists_cons_of_ne_nil hnumbers
  obtain ⟨c, cs, hdecimal, hc⟩ := exists_decimal_eq_cons first.toNat
  cases rest with
  | nil =>
    rw [writeParts, List.map_cons, List.map_nil, dotted_singleton, hdecimal]
    exact ⟨c, _, rfl, hc⟩
  | cons second rest =>
    rw [writeParts, List.map_cons, List.map_cons, dotted_cons, hdecimal]
    exact ⟨c, _, rfl, hc⟩

theorem components_ne_nil (v : Version) : v.components ≠ [] := by
  rw [components]
  split <;> simp

/-- A written version starts with a digit. -/
theorem exists_format_eq_cons (v : Version) : ∃ c cs, v.format = c :: cs ∧ c.isDigit = true := by
  rw [format_eq]
  exact exists_writeParts_eq_cons v.components_ne_nil _ _

@[simp] theorem written_feature (v : Version) : v.written.feature = v.feature := by
  rw [written]
  split <;> rfl

/-- What stands before the leftmost digit is passed over. -/
theorem read?_append {before s : List Char} (hbefore : ∀ c ∈ before, isDigit c = false)
    (hs : startsWithDigit s = true) : read? (before ++ s) = some (readHere s) := by
  cases s with
  | nil => cases hs
  | cons c cs =>
    have hdrop : (before ++ c :: cs).dropWhile (!isDigit ·) = c :: cs := by
      refine dropWhile_run ?_ ?_
      · intro d hd
        rw [hbefore d hd, Bool.not_false]
      · intro d hd
        cases hd
        have hc : isDigit c = true := hs
        rw [hc, Bool.not_true]
    rw [read?, hdrop]

/-- Runs of digits with dots between them are read one by one. -/
theorem read?_dotted {runs : List (List Char)} (hne : runs ≠ [])
    (hruns : ∀ run ∈ runs, IsRun run) : read? (dotted runs) = some ⟨runs, none, false, none⟩ := by
  have hstart := startsWithDigit_dotted hne hruns []
  have hrun : takeRun (dotted runs ++ []) = (dotted runs, []) := takeRun_dotted hne hruns rfl
  rw [List.append_nil] at hstart hrun
  have hbefore : ∀ c ∈ ([] : List Char), isDigit c = false := by simp
  have hread := read?_append hbefore hstart
  rw [List.nil_append, readHere, hrun] at hread
  rw [hread]
  simp only [splitOn_dotted hne hruns]
  rfl

theorem parse?_dotted {runs : List (List Char)} (hne : runs ≠ [])
    (hruns : ∀ run ∈ runs, IsRun run) :
    parse? (dotted runs) = ((runs.mapM word32?).map (ofNumbers · none none false)).filter
      (isFeature ·.feature) := by
  rw [parse?, read?_dotted hne hruns, Option.bind_some, Reading.toVersion?]
  cases runs.mapM word32? with
  | none => rfl
  | some numbers => simp [optionalWord?, Option.filter_some]

/-- Parts are found behind any text without digits, and what follows them is read for a build
number only. -/
theorem parse?_writeParts {numbers : List UInt32} (hnumbers : numbers ≠ [])
    (underscore : Option UInt32) (early : Bool) {pre tail : List Char}
    (hpre : ∀ c ∈ pre, isDigit c = false) (htail : Follows tail) {build : Option UInt32}
    (hbuild : takeBuild tail = build.map (decimal ·.toNat)) :
    parse? (pre ++ (writeParts numbers underscore early ++ tail)) =
      (some (ofNumbers numbers underscore build early)).filter (isFeature ·.feature) := by
  obtain ⟨c, cs, hparts, hc⟩ := exists_writeParts_eq_cons hnumbers underscore early
  have hstart : startsWithDigit (writeParts numbers underscore early ++ tail) = true := by
    rw [hparts]
    exact isDigit_of_ascii hc
  rw [parse?, read?_append hpre hstart, readHere_writeParts hnumbers underscore early htail, hbuild]
  simp only [Option.bind_some, Reading.toVersion?, mapM_word32?_decimal, optionalWord?_decimal,
    Option.filter_some]

theorem follows_nil : Follows [] := by
  simp [Follows]

/-- A written version is found behind any text without digits. -/
theorem parse?_format {v : Version} (hfeature : isFeature v.feature = true) {pre tail : List Char}
    (hpre : ∀ c ∈ pre, isDigit c = false) (htail : Follows tail) {build : Option UInt32}
    (hbuild : takeBuild tail = build.map (decimal ·.toNat)) :
    parse? (pre ++ (v.format ++ tail)) = some { v.written with build := build.getD 0 } := by
  rw [format_eq, parse?_writeParts v.components_ne_nil _ _ hpre htail hbuild,
    ofNumbers_components]
  simp only [Option.filter_some, written_feature, hfeature, ↓reduceIte]

@[simp] theorem written_build (v : Version) : v.written.build = 0 := by
  rw [written]
  split <;> rfl

theorem parse?_format_self {v : Version} (hfeature : isFeature v.feature = true) :
    parse? v.format = some v.written := by
  have hpre : ∀ c ∈ ([] : List Char), isDigit c = false := by simp
  have hbuild : takeBuild [] = (none : Option UInt32).map (decimal ·.toNat) := rfl
  have hwritten : { v.written with build := (none : Option UInt32).getD 0 } = v.written := by
    rw [Option.getD_none, ← written_build v]
  have hparse := parse?_format hfeature hpre follows_nil hbuild
  rwa [List.nil_append, List.append_nil, hwritten] at hparse

theorem isFeature_iff {n : UInt32} : isFeature n = true ↔ 1 ≤ n ∧ n ≤ 99 := by
  rw [isFeature, Bool.and_eq_true, decide_eq_true_iff, decide_eq_true_iff]

@[simp] theorem ofFeature_feature (n : UInt32) : (ofFeature n).feature = n :=
  rfl

/-- Every version that can be read has a feature release in range. -/
theorem isFeature_of_parse? {text : List Char} {v : Version} (h : parse? text = some v) :
    isFeature v.feature = true := by
  obtain ⟨reading, -, hversion⟩ := Option.bind_eq_some_iff.mp h
  unfold Reading.toVersion? at hversion
  split at hversion
  · obtain ⟨hfeature, hv⟩ := Option.ite_none_right_eq_some.mp hversion
    cases hv
    exact hfeature
  · cases hversion

/-! ## §4 The text itself -/

/-- The characters of a written version. -/
theorem cases_of_mem_format {v : Version} {c : Char} (h : c ∈ v.format) :
    c.isDigit = true ∨ c ∈ ['.', '_', '-', 'e', 'a'] := by
  have hea : "-ea".toList = ['-', 'e', 'a'] := rfl
  rw [format_eq, writeParts, mark, List.mem_append, List.mem_append] at h
  -- A run with its dots, the underscore with its run, and the mark.
  rcases h with (h | h) | h
  · rcases cases_of_mem_intercalate h with rfl | ⟨run, hrun, hc⟩
    · exact .inr (by simp)
    · obtain ⟨n, -, rfl⟩ := List.mem_map.mp hrun
      exact .inl (ascii_of_mem_decimal hc)
  · cases hunderscored : v.underscored with
    | none => simp [hunderscored] at h
    | some n =>
      rw [hunderscored] at h
      rcases List.mem_cons.mp h with rfl | hdigit
      · exact .inr (by simp)
      · exact .inl (ascii_of_mem_decimal hdigit)
  · split at h
    · rw [hea] at h
      exact .inr (List.mem_cons_of_mem _ (List.mem_cons_of_mem _ h))
    · cases h

theorem trim_format (v : Version) : trim v.format = v.format := by
  apply trim_eq_self
  intro c hc
  rcases cases_of_mem_format hc with hdigit | hother
  · exact isBlank_of_ascii_digit hdigit
  · have hnone : (['.', '_', '-', 'e', 'a'].all fun d => !isBlank d) = true := by decide
    simpa using List.all_eq_true.mp hnone c hother

@[simp] theorem format_written (v : Version) : v.written.format = v.format := by
  by_cases hold : v.feature ≤ 8
  · simp [format, written, label, hold]
  · simp [format, written, label, hold]

/-- Build numbers are not written. -/
example : parse? (Version.mk 8 0 292 0 10 false).format = some (Version.mk 8 0 292 0 0 false) := by
  decide

end JdkFinder.Version
