import JdkFinder.Proofs.Requirement.Decoration

/-!
# Spellings of a name

What a name asks for depends neither on the case of its letters nor on white space at its ends, and
a hyphen between two words does the same as white space.  One name is an exception, because the
rules that have a name of their own are looked up before the words are found: `latest-lts` names a
rule and `latest lts` states nothing (`Requirement.spelling_matters_for_latest_lts_only`).
-/

namespace JdkFinder

open Text

/-! ## §1 Changes of spelling -/

/-- The texts differ in the case of ASCII letters at most. -/
def SameLetters (s t : List Char) : Prop :=
  s.map Char.toLower = t.map Char.toLower

instance (s t : List Char) : Decidable (SameLetters s t) :=
  inferInstanceAs (Decidable (_ = _))

/-- White space only, or nothing. -/
def AllBlank (s : List Char) : Prop :=
  ∀ c ∈ s, isBlank c = true

/-- One hyphen in place of each run of white space. -/
def hyphenated : List Char → List Char
  | [] => []
  | c :: cs =>
    if isBlank c then
      -- The hyphen stands for the last character of the run.
      if cs.head?.any isBlank then hyphenated cs else '-' :: hyphenated cs
    else c :: hyphenated cs

/-- The name is `latest lts` in some case, with white space between the words. -/
structure WritesGap (name : List Char) : Prop where
  exists_gap : ∃ first gap last, trim name = first ++ (gap ++ last) ∧ gap ≠ [] ∧ AllBlank gap ∧
    lowercase first = "latest".toList ∧ lowercase last = "lts".toList

/-! ## §2 What is read -/

theorem keepsApart_of_isSeparator {c : Char} (h : isSeparator c = true) : KeepsApart c := by
  rw [isSeparator, Bool.or_eq_true, beq_iff_eq] at h
  rcases h with hblank | rfl
  · exact keepsApart_of_isBlank hblank
  · exact keepsApart_hyphen

/-- Separators are still there in lower case. -/
theorem mem_lowercase_of_isSeparator {s : List Char} {c : Char} (hc : c ∈ s)
    (h : isSeparator c = true) : c ∈ lowercase s := by
  obtain ⟨before, after, rfl⟩ := List.append_of_mem hc
  rw [(keepsApart_of_isSeparator h).lowercase_append_cons]
  exact List.mem_append_right _ List.mem_cons_self

/-- The words of a name in lower case are found on the two sides of a separator. -/
theorem nameWords_lowercase_append_cons {c : Char} (h : isSeparator c = true) (s t : List Char) :
    nameWords (lowercase (s ++ c :: t)) = nameWords (lowercase s) ++ nameWords (lowercase t) := by
  rw [(keepsApart_of_isSeparator h).lowercase_append_cons, nameWords_append_cons h]

theorem nameWords_lowercase_cons {c : Char} (h : isSeparator c = true) (s : List Char) :
    nameWords (lowercase (c :: s)) = nameWords (lowercase s) :=
  nameWords_lowercase_append_cons h [] s

/-- A name has the same words with hyphens in place of its white space. -/
theorem nameWords_lowercase_hyphenated (front s : List Char) :
    nameWords (lowercase (front ++ hyphenated s)) = nameWords (lowercase (front ++ s)) := by
  induction s generalizing front with
  | nil => rfl
  | cons c s ih =>
    rw [hyphenated]
    by_cases hc : isBlank c = true
    · have hseparator := isSeparator_of_isBlank hc
      rw [if_pos hc, nameWords_lowercase_append_cons hseparator]
      split
      · -- The next character of the run parts the same words.
        rename_i hnext
        cases s with
        | nil => cases hnext
        | cons d s =>
          have hd : isSeparator d = true := isSeparator_of_isBlank hnext
          rw [ih front, nameWords_lowercase_append_cons hd, nameWords_lowercase_cons hd]
      · rw [nameWords_lowercase_append_cons isSeparator_hyphen]
        exact congrArg (nameWords (lowercase front) ++ ·) (ih [])
    · have hword := ih (front ++ [c])
      rw [List.append_assoc, List.append_assoc] at hword
      rw [if_neg hc]
      exact hword

/-! ## §3 Where white space was -/

theorem isBlank_of_mem_hyphenated {s : List Char} : ∀ c ∈ hyphenated s, isBlank c = false := by
  induction s with
  | nil => simp [hyphenated]
  | cons c s ih =>
    rw [hyphenated]
    split
    · split
      · exact ih
      · rw [List.forall_mem_cons]
        exact ⟨rfl, ih⟩
    · rename_i hc
      rw [List.forall_mem_cons]
      exact ⟨Bool.not_eq_true _ ▸ hc, ih⟩

theorem hyphenated_eq_self {s : List Char} (h : ∀ c ∈ s, isBlank c = false) :
    hyphenated s = s := by
  induction s with
  | nil => rfl
  | cons c s ih =>
    rw [List.forall_mem_cons] at h
    rw [hyphenated, if_neg (Bool.not_eq_true _ ▸ h.1), ih h.2]

theorem trim_hyphenated (s : List Char) : trim (hyphenated s) = hyphenated s :=
  trim_eq_self isBlank_of_mem_hyphenated

/-- A hyphen stands for a whole run of white space. -/
theorem hyphenated_append_gap {first gap rest : List Char} (hfirst : ∀ c ∈ first, isBlank c = false)
    (hne : gap ≠ []) (hgap : AllBlank gap) (hrest : ∀ c ∈ rest.head?, isBlank c = false) :
    hyphenated (first ++ (gap ++ rest)) = first ++ '-' :: hyphenated rest := by
  -- The letters in front are copied; the gap is then one hyphen, written for its last blank.
  induction first with
  | nil =>
    induction gap with
    | nil => exact absurd rfl hne
    | cons c gap ih =>
      obtain ⟨hc, hgap⟩ := List.forall_mem_cons.mp hgap
      rw [List.nil_append, List.cons_append, hyphenated, if_pos hc]
      cases gap with
      | nil =>
        have hend : rest.head?.any isBlank = false := by
          rw [Option.any_eq_false]
          intro d hd
          simpa using hrest d hd
        rw [List.nil_append, hend]
        rfl
      | cons d gap =>
        have hd : isBlank d = true := hgap d List.mem_cons_self
        rw [List.cons_append, List.head?_cons, Option.any_some, if_pos hd]
        exact ih (List.cons_ne_nil d gap) hgap
  | cons c first ih =>
    obtain ⟨hc, hfirst⟩ := List.forall_mem_cons.mp hfirst
    rw [List.cons_append, hyphenated, if_neg (Bool.not_eq_true _ ▸ hc), ih hfirst, List.cons_append]

/-- A text with white space can be taken apart at the first run of it. -/
theorem exists_first_gap {s : List Char} (h : ¬ ∀ c ∈ s, isBlank c = false) :
    ∃ first gap rest, s = first ++ (gap ++ rest) ∧ (∀ c ∈ first, isBlank c = false) ∧ gap ≠ [] ∧
      AllBlank gap ∧ ∀ c ∈ rest.head?, isBlank c = false := by
  obtain ⟨first, tail, rfl, hfirst, htail⟩ := exists_run_append (!isBlank ·) s
  obtain ⟨gap, rest, rfl, hgap, hrest⟩ := exists_run_append isBlank tail
  have hsolid : ∀ c ∈ first, isBlank c = false := fun c hc => by simpa using hfirst c hc
  refine ⟨first, gap, rest, rfl, hsolid, ?_, hgap, hrest⟩
  rintro rfl
  -- Without a gap the first word does not end before the text does.
  cases rest with
  | nil =>
    rw [List.append_nil, List.append_nil] at h
    exact h hsolid
  | cons c rest =>
    have hblank : isBlank c = true := by simpa using htail c rfl
    rw [hrest c rfl] at hblank
    cases hblank

theorem hyphen_mem_hyphenated {s : List Char} (h : ¬ ∀ c ∈ s, isBlank c = false) :
    '-' ∈ hyphenated s := by
  obtain ⟨first, gap, rest, rfl, hfirst, hne, hgap, hrest⟩ := exists_first_gap h
  rw [hyphenated_append_gap hfirst hne hgap hrest]
  exact List.mem_append_right _ List.mem_cons_self

/-! ## §4 The name of two words -/

/-- Only one rule has a name of two words. -/
theorem eq_of_namedSpec? {first last : List Char} {spec : VersionSpec}
    (h : namedSpec? (first ++ '-' :: last) = some spec) :
    first = "latest".toList ∧ last = "lts".toList := by
  have hall : ∀ text ∈ ["lts", "latest-lts", "latest", "newest"].map String.toList,
      text.splitOn '-' = ["latest".toList, "lts".toList] ∨ (text.splitOn '-').length = 1 := by
    decide
  have hpieces : (first ++ '-' :: last).splitOn '-' = first.splitOn '-' ++ last.splitOn '-' :=
    List.splitOn_append_cons_self first last
  obtain ⟨piece, pieces, hfirst⟩ := List.exists_cons_of_ne_nil (List.splitOn_ne_nil '-' first)
  obtain ⟨next, others, hlast⟩ := List.exists_cons_of_ne_nil (List.splitOn_ne_nil '-' last)
  have hcases := hall _ (namedSpec?_cases h)
  rw [hpieces, hfirst, hlast] at hcases
  rcases hcases with htwo | hone
  · -- Each side has one piece, which is the whole of it.
    have hwhole (s : List Char) : ['-'].intercalate (s.splitOn '-') = s :=
      List.intercalate_splitOn '-'
    have hpieces : pieces = [] := by
      cases pieces with
      | nil => rfl
      | cons _ pieces => simp at htwo
    subst hpieces
    obtain ⟨rfl, hothers⟩ := List.cons.inj htwo
    obtain ⟨rfl, rfl⟩ := List.cons.inj hothers
    refine ⟨?_, ?_⟩
    · rw [← hwhole first, hfirst, List.intercalate_singleton]
    · rw [← hwhole last, hlast, List.intercalate_singleton]
  · simp at hone

section Gap

variable {name : List Char}

theorem WritesGap.lowercase_hyphenated (h : WritesGap name) :
    lowercase (hyphenated (trim name)) = "latest-lts".toList := by
  obtain ⟨first, gap, last, htrim, hne, hgap, hfirst, hlast⟩ := h
  -- White space in a word would still be there in lower case.
  have hsolid {word lower : List Char} (hword : lowercase word = lower)
      (hlower : ∀ c ∈ lower, isBlank c = false) : ∀ c ∈ word, isBlank c = false := by
    intro c hc
    rw [Bool.eq_false_iff]
    intro hblank
    have hmem := mem_lowercase_of_isSeparator hc (isSeparator_of_isBlank hblank)
    rw [hlower c (hword ▸ hmem)] at hblank
    cases hblank
  have hfirstSolid := hsolid hfirst (forall_of_all (by decide))
  have hlastSolid := hsolid hlast (forall_of_all (by decide))
  rw [htrim, hyphenated_append_gap hfirstSolid hne hgap
      fun c hc => hlastSolid c (List.mem_of_mem_head? hc),
    hyphenated_eq_self hlastSolid, keepsApart_hyphen.lowercase_append_cons, hfirst, hlast]
  rfl

theorem namesRule_iff_of_solid (h : ∀ c ∈ trim name, isBlank c = false) :
    NamesRule (hyphenated (trim name)) ↔ NamesRule name := by
  rw [NamesRule, NamesRule, trim_hyphenated, hyphenated_eq_self h]

/-- The names of rules have no white space. -/
theorem solid_of_namesRule (h : NamesRule name) : ∀ c ∈ trim name, isBlank c = false := by
  have hall : ∀ text ∈ ["lts", "latest-lts", "latest", "newest"].map String.toList,
      text.all (fun c => !isBlank c) = true := by
    decide
  obtain ⟨spec, hspec⟩ := Option.isSome_iff_exists.mp h
  intro c hc
  rw [Bool.eq_false_iff]
  intro hblank
  have hmem := mem_lowercase_of_isSeparator hc (isSeparator_of_isBlank hblank)
  have hsolid := List.all_eq_true.mp (hall _ (namedSpec?_cases hspec)) c hmem
  rw [hblank] at hsolid
  cases hsolid

theorem WritesGap.not_namesRule (h : WritesGap name) : ¬ NamesRule name := by
  obtain ⟨first, gap, last, htrim, hne, hgap, -⟩ := h
  obtain ⟨c, gap, rfl⟩ := List.exists_cons_of_ne_nil hne
  intro hnamed
  have hsolid := solid_of_namesRule hnamed c (by simp [htrim])
  rw [hgap c List.mem_cons_self] at hsolid
  cases hsolid

/-- Where hyphens make a name the name of a rule, it is the one of two words. -/
theorem writesGap_of_namesRule (h : NamesRule (hyphenated (trim name))) (hnot : ¬ NamesRule name) :
    WritesGap name := by
  obtain ⟨first, gap, rest, htrim, hfirst, hne, hgap, hrest⟩ :=
    exists_first_gap fun hsolid => hnot ((namesRule_iff_of_solid hsolid).mp h)
  obtain ⟨spec, hspec⟩ := Option.isSome_iff_exists.mp h
  rw [trim_hyphenated, htrim, hyphenated_append_gap hfirst hne hgap hrest,
    keepsApart_hyphen.lowercase_append_cons] at hspec
  obtain ⟨hlower, hlowerRest⟩ := eq_of_namedSpec? hspec
  -- The second word has no hyphen, so no white space was left behind the first run of it.
  have hrestSolid : ∀ c ∈ rest, isBlank c = false := by
    by_contra hblank
    have hmem := mem_lowercase_of_isSeparator (hyphen_mem_hyphenated hblank) isSeparator_hyphen
    rw [hlowerRest] at hmem
    exact absurd hmem (by decide)
  refine ⟨first, gap, rest, htrim, hne, hgap, hlower, ?_⟩
  rwa [hyphenated_eq_self hrestSolid] at hlowerRest

end Gap

/-! ## §5 All spellings of a name -/

namespace Requirement

/-- The case of ASCII letters does not matter. -/
theorem parse?_of_sameLetters {name other : List Char} (h : SameLetters other name) :
    parse? other = parse? name := by
  have hclean : lowercase (trim other) = lowercase (trim name) := by
    rw [← lowercase_map_toLower, ← trim_map isBlank_toLower, h, trim_map isBlank_toLower,
      lowercase_map_toLower]
  rw [parse?, parse?, hclean]

/-- White space around a name does not matter. -/
theorem parse?_append_blanks {front back : List Char} (hfront : AllBlank front)
    (hback : AllBlank back) (name : List Char) :
    parse? (front ++ (name ++ back)) = parse? name := by
  rw [parse?, parse?, trim_append_blanks hfront hback]

/-- Hyphens in place of white space leave the words of a name as they are. -/
theorem parse?_hyphenated {name : List Char} (h : ¬ WritesGap name) :
    parse? (hyphenated (trim name)) = parse? name := by
  by_cases hnamed : NamesRule name
  · have hsolid := solid_of_namesRule hnamed
    rw [hyphenated_eq_self hsolid, parse?, parse?, trim_eq_self hsolid]
  · have hother : ¬ NamesRule (hyphenated (trim name)) :=
      fun hrule => h (writesGap_of_namesRule hrule hnamed)
    have hwords := nameWords_lowercase_hyphenated [] (trim name)
    rw [List.nil_append, List.nil_append] at hwords
    rw [parse?_of_notNamed hnamed, parse?_of_notNamed hother, trim_hyphenated, hwords]

/-- With white space in it, the name of two words is read as two words, and these state nothing. -/
theorem parse?_of_writesGap {name : List Char} (h : WritesGap name) :
    parse? name = none ∧ parse? (hyphenated (trim name)) = some ⟨.longTerm, none⟩ := by
  have hlower := h.lowercase_hyphenated
  have hspec : namedSpec? "latest-lts".toList = some .longTerm := by decide
  have hwords := nameWords_lowercase_hyphenated [] (trim name)
  rw [List.nil_append, List.nil_append, hlower] at hwords
  constructor
  · rw [parse?_of_notNamed h.not_namesRule, ← hwords, parse?_of_namedSpec? hspec, Option.map_none]
  · rw [parse?, trim_hyphenated, hlower, hspec]

/-- A name asks for the same in every spelling, with one exception: where `latest-lts` asks for a
release with long-term support, `latest lts` with white space between the words asks for nothing. -/
theorem spelling_matters_for_latest_lts_only (name : List Char) :
    (∀ other, SameLetters other name → parse? other = parse? name) ∧
    (∀ front back, AllBlank front → AllBlank back →
      parse? (front ++ (name ++ back)) = parse? name) ∧
    (¬ WritesGap name → ∀ front back, AllBlank front → AllBlank back →
      parse? (front ++ (hyphenated (trim name) ++ back)) = parse? name) ∧
    (WritesGap name → parse? name = none ∧
      parse? (hyphenated (trim name)) = some ⟨.longTerm, none⟩) := by
  refine ⟨fun other hother => parse?_of_sameLetters hother, fun front back hfront hback => ?_,
    fun hgap front back hfront hback => ?_, fun hgap => ?_⟩
  · exact parse?_append_blanks hfront hback name
  · rw [parse?_append_blanks hfront hback, parse?_hyphenated hgap]
  · exact parse?_of_writesGap hgap

/-- A name with a tab in it, and the name that lacks its hyphen. -/
theorem spellings_of_corretto_11 :
    let name := "Corretto \t11".toList
    let apart := "Latest LTS".toList
    (SameLetters "cORRETTO \t11".toList name ∧ AllBlank " ".toList ∧ AllBlank "\n".toList ∧
      ¬ WritesGap name ∧ WritesGap apart) ∧
    hyphenated (trim name) = "Corretto-11".toList ∧
    parse? "cORRETTO \t11".toList = parse? name ∧
    parse? (" ".toList ++ (name ++ "\n".toList)) = parse? name ∧
    parse? (" ".toList ++ (hyphenated (trim name) ++ "\n".toList)) = parse? name ∧
    parse? apart = none ∧ parse? (hyphenated (trim apart)) = some ⟨.longTerm, none⟩ := by
  intro name apart
  have hletters : SameLetters "cORRETTO \t11".toList name := by decide
  have hspace : AllBlank " ".toList := forall_of_all (by decide)
  have hnewline : AllBlank "\n".toList := forall_of_all (by decide)
  -- The gap between the two words of this name is what the theorem makes an exception of.
  have hapart : WritesGap apart :=
    ⟨"Latest".toList, " ".toList, "LTS".toList, by decide, by decide, hspace, by decide, by decide⟩
  obtain ⟨hrecased, hpadded, hhyphenated, hnone⟩ := spelling_matters_for_latest_lts_only name
  have hgap : ¬ WritesGap name := by
    intro hgap
    have hparse : parse? name = some ⟨.major 11, some .corretto⟩ := by decide +kernel
    rw [(hnone hgap).1] at hparse
    cases hparse
  obtain ⟨-, -, -, hapartNone⟩ := spelling_matters_for_latest_lts_only apart
  exact ⟨⟨hletters, hspace, hnewline, hgap, hapart⟩, by decide, hrecased _ hletters,
    hpadded _ _ hspace hnewline, hhyphenated hgap _ _ hspace hnewline, hapartNone hapart⟩

/-- The two words of `latest-lts` state nothing with white space between them. -/
theorem latest_lts_needs_its_hyphen :
    hyphenated (trim "latest lts".toList) = "latest-lts".toList ∧
      parse? "latest lts".toList = none ∧
      parse? "latest-lts".toList = some ⟨.longTerm, none⟩ := by
  refine ⟨?_, ?_, ?_⟩
  all_goals decide +kernel

end Requirement

end JdkFinder
