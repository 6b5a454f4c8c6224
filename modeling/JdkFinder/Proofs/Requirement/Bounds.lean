import JdkFinder.Proofs.Requirement.Rule

/-!
# Releases as bounds

A release that can be asked for by itself can be asked for with all later ones, by a plus sign
behind it, and it can be an end of a range.  The old numbers of releases after 8 are an exception:
`1.9` is release 9, but it is not a bound, and neither is `1.`
(`VersionSpec.release_is_bound_unless_late_old_number`).
-/

namespace JdkFinder

open Text

/-! ## §1 Old numbers -/

/-- The number of a release in the old numbering is the one behind the first. -/
theorem Version.parse?_oldNumber {release : List Char} (h : IsRun release) :
    parse? ('1' :: '.' :: release) =
      ((word32? release).map ofFeature).filter (isFeature ·.feature) := by
  have hruns : ∀ run ∈ [['1'], release], IsRun run := by
    simp only [List.forall_mem_cons, List.not_mem_nil, false_implies, implies_true, and_true]
    exact ⟨isRun_decimal 1, h⟩
  have htext : '1' :: '.' :: release = dotted [['1'], release] := by
    rw [dotted_cons, dotted_singleton, List.singleton_append]
  have hone : word32? ['1'] = some 1 := by decide
  rw [htext, parse?_dotted (by simp) hruns]
  cases hword : word32? release with
  | none => simp [hone, hword]
  | some n => simp [hone, hword, ofNumbers, ofFeature]

namespace VersionSpec

/-- The text of a release is no bound: it is the old number of a release after 8, or it has no
second number at all. -/
def NamesNoBound (text : List Char) (release : UInt32) : Prop :=
  text = ['1', '.'] ∨ (['1', '.'] <+: text ∧ 8 < release)

instance (text : List Char) (release : UInt32) : Decidable (NamesNoBound text release) :=
  inferInstanceAs (Decidable (_ ∨ _))

/-- The characters of releases. -/
def IsReleaseText (text : List Char) : Prop :=
  ∀ c ∈ text, c.isDigit = true ∨ c = '.'

theorem IsReleaseText.isDottedChar {text : List Char} (h : IsReleaseText text) :
    ∀ c ∈ text, isDottedChar c = true := by
  intro c hc
  rcases h c hc with hdigit | rfl
  · exact isDottedChar_of_isDigit hdigit
  · rfl

/-- A bound is written without white space and without a sign. -/
theorem bound?_of_number {text : List Char} (h : ∀ c ∈ text, c.isDigit = true) :
    bound? text = feature? text := by
  have hstrip : stripPrefix? ['1', '.'] text = none := by
    rw [Option.eq_none_iff_forall_ne_some]
    rintro rest hrest
    rw [stripPrefix?_eq_some_iff] at hrest
    exact absurd (h '.' (by simp [hrest])) (by decide)
  rw [bound?, trim_eq_self fun c hc => isBlank_of_ascii_digit (h c hc), hstrip]

theorem bound?_of_oldNumber {release : List Char} (h : ∀ c ∈ release, c.isDigit = true) :
    bound? ('1' :: '.' :: release) = (word32? release).filter fun n => 1 ≤ n && n ≤ 8 := by
  have hsolid : ∀ c ∈ '1' :: '.' :: release, isBlank c = false := by
    rw [List.forall_mem_cons, List.forall_mem_cons]
    exact ⟨rfl, rfl, fun c hc => isBlank_of_ascii_digit (h c hc)⟩
  have hstrip : stripPrefix? ['1', '.'] ('1' :: '.' :: release) = some release :=
    stripPrefix?_append ['1', '.'] release
  rw [bound?, trim_eq_self hsolid, hstrip]

/-- There is nothing but digits behind `1.` if it is all that stands before the second number. -/
theorem isDigit_of_two_pieces {number : List Char}
    (hchars : ∀ c ∈ '1' :: '.' :: number, isDottedChar c = true)
    (htwo : (('1' :: '.' :: number).splitOn '.').length = 2) (hplain : '_' ∉ number) :
    ∀ c ∈ number, c.isDigit = true := by
  intro c hc
  have hcases : c.isDigit = true ∨ c = '.' ∨ c = '_' := by
    simpa [isDottedChar, or_assoc] using hchars c (by simp [hc])
  rcases hcases with hdigit | rfl | rfl
  · exact hdigit
  · -- Each dot adds a piece.
    obtain ⟨before, after, rfl⟩ := List.append_of_mem hc
    have hone : ('1' :: '.' :: (before ++ '.' :: after)).splitOn '.' =
        ['1'].splitOn '.' ++ (before.splitOn '.' ++ after.splitOn '.') := by
      rw [← List.splitOn_append_cons_self, ← List.splitOn_append_cons_self]
      rfl
    have hbefore := List.length_pos_iff.mpr (List.splitOn_ne_nil '.' before)
    have hafter := List.length_pos_iff.mpr (List.splitOn_ne_nil '.' after)
    have hfirst := List.length_pos_iff.mpr (List.splitOn_ne_nil '.' ['1'])
    rw [hone, List.length_append, List.length_append] at htwo
    omega
  · exact absurd hc hplain

/-- An old number is a bound up to release 8. -/
theorem bound?_eq_of_oldNumber {number : List Char} {v : Version}
    (hdigits : ∀ c ∈ number, c.isDigit = true)
    (hversion : Version.parse? ('1' :: '.' :: number) = some v) :
    bound? ('1' :: '.' :: number) =
      if NamesNoBound ('1' :: '.' :: number) v.feature then none else some v.feature := by
  -- Nothing behind the `1.` names no bound; otherwise what is written there is a feature, and the
  -- bound is lost when it is above 8.
  cases number with
  | nil =>
    rw [if_pos (.inl rfl)]
    decide
  | cons c number =>
    have hrun : Version.IsRun (c :: number) :=
      ⟨List.cons_ne_nil c number, fun d hd => isDigit_of_ascii (hdigits d hd)⟩
    rw [Version.parse?_oldNumber hrun, Option.filter_eq_some_iff, Option.map_eq_some_iff]
      at hversion
    obtain ⟨⟨n, hword, rfl⟩, hfeature⟩ := hversion
    rw [Version.ofFeature_feature] at hfeature ⊢
    obtain ⟨hone, -⟩ := Version.isFeature_iff.mp hfeature
    have hbound : NamesNoBound ('1' :: '.' :: c :: number) n ↔ ¬ n ≤ 8 := by
      rw [UInt32.not_le, NamesNoBound]
      constructor
      · rintro (hempty | ⟨-, hlate⟩)
        · cases hempty
        · exact hlate
      · exact fun hlate => .inr ⟨⟨_, rfl⟩, hlate⟩
    rw [bound?_of_oldNumber hdigits, hword, Option.filter_some]
    by_cases hlate : n ≤ 8
    · rw [if_pos (by simp [hlate, hone]), if_neg (by rwa [hbound, not_not])]
    · rw [if_neg (by simp [hlate]), if_pos (hbound.mpr hlate)]

/-- A text that states a release is a bound with that release, apart from the exceptions. -/
theorem bound?_eq_of_major {text : List Char} {release : UInt32} (htext : IsReleaseText text)
    (h : parse? text = some (.major release)) :
    bound? text = if NamesNoBound text release then none else some release := by
  have hstates := states_of_parse? h
  rw [bareVersion_eq_self fun c hc => isRuleChar_of_isDottedChar (htext.isDottedChar c hc)]
    at hstates
  -- A text of digits and dots states a release as a number or by its old number.
  cases hstates with
  | number hword hfeature =>
    have hplus : ∀ c ∈ text.head?, c ≠ '+' := by
      rintro c hc rfl
      exact absurd (htext.isDottedChar _ (List.mem_of_mem_head? hc)) (by decide)
    have hdigits := ((word32?_eq_some_iff hplus).mp hword).ascii
    have hdot : ¬ ['1', '.'] <+: text :=
      fun hone => absurd (hdigits '.' (hone.subset (by simp))) (by decide)
    have hbound : ¬ NamesNoBound text release := by
      rintro (rfl | ⟨hone, -⟩)
      · exact hdot (List.prefix_refl _)
      · exact hdot hone
    rw [bound?_of_number hdigits, if_neg hbound, feature?_eq_some_iff]
    exact ⟨hword, hfeature⟩
  | oldRelease hdotted hversion hone htwo hplain =>
    obtain ⟨number, rfl⟩ := hone
    have hnumber : '_' ∉ number := fun hmem => hplain (List.mem_append_right _ hmem)
    exact bound?_eq_of_oldNumber (isDigit_of_two_pieces hdotted htwo hnumber) hversion

/-- A release with a plus sign behind it asks for that release and all later ones, and two releases
with a hyphen between them ask for all from the one to the other, if they are in order; but where a
text is no bound, nothing is asked for. -/
theorem release_is_bound_unless_late_old_number {first last : List Char} {m n : UInt32}
    (hfirst : IsReleaseText first) (hlast : IsReleaseText last)
    (hm : parse? first = some (.major m)) (hn : parse? last = some (.major n)) :
    parse? (first ++ ['+']) = (if NamesNoBound first m then none else some (.atLeast m)) ∧
    parse? (first ++ '-' :: last) =
      if NamesNoBound first m ∨ NamesNoBound last n ∨ ¬ m ≤ n then none
      else some (.range m n) := by
  have hfirstBound := bound?_eq_of_major hfirst hm
  have hlastBound := bound?_eq_of_major hlast hn
  constructor
  · rw [parse?_onward fun c hc => isRuleChar_of_isDottedChar (hfirst.isDottedChar c hc),
      hfirstBound]
    split
    · rfl
    · rfl
  · rw [parse?_between hfirst.isDottedChar hlast.isDottedChar, range?, hfirstBound, hlastBound]
    -- The range needs both bounds, so either of them may fail, and then their order counts.
    by_cases hnoFirst : NamesNoBound first m
    · simp only [hnoFirst, ↓reduceIte, true_or]
    · by_cases hnoLast : NamesNoBound last n
      · simp only [hnoFirst, hnoLast, ↓reduceIte, true_or, or_true]
      · simp only [hnoFirst, hnoLast, ↓reduceIte, false_or, ite_not]

/-- Java 8 by its old number and Java 11 with a zero in front are the ends of a range. -/
theorem bounds_of_1_8_and_011 :
    (IsReleaseText "1.8".toList ∧ IsReleaseText "011".toList) ∧
    (parse? "1.8".toList = some (.major 8) ∧ parse? "011".toList = some (.major 11)) ∧
    parse? ("1.8".toList ++ ['+']) = some (.atLeast 8) ∧
    parse? ("1.8".toList ++ '-' :: "011".toList) = some (.range 8 11) ∧
    parse? ("011".toList ++ '-' :: "1.8".toList) = none := by
  have hold : IsReleaseText "1.8".toList := forall_of_all (by decide)
  have hnew : IsReleaseText "011".toList := forall_of_all (by decide)
  have h8 : parse? "1.8".toList = some (.major 8) := by decide +kernel
  have h11 : parse? "011".toList = some (.major 11) := by decide +kernel
  obtain ⟨honward, hrange⟩ := release_is_bound_unless_late_old_number hold hnew h8 h11
  obtain ⟨-, hreversed⟩ := release_is_bound_unless_late_old_number hnew hold h11 h8
  rw [if_neg (by decide)] at honward hrange
  rw [if_pos (by decide)] at hreversed
  exact ⟨⟨hold, hnew⟩, ⟨h8, h11⟩, honward, hrange, hreversed⟩

/-- The old number of Java 9 asks for that release, but with a plus sign it asks for nothing. -/
theorem old_number_of_9_is_no_bound :
    IsReleaseText "1.9".toList ∧ parse? "1.9".toList = some (.major 9) ∧
      parse? ("1.9".toList ++ ['+']) = none := by
  refine ⟨forall_of_all (by decide), ?_, ?_⟩
  all_goals decide +kernel

end VersionSpec

end JdkFinder
