import JdkFinder.Proofs.Requirement.SuggestedName

/-!
# Words in front of a name

A vendor's word in front of a name adds that vendor to what the name asks for, and a word without
meaning adds nothing: either way the rule on versions stays what it was.  The exception are the
rules that have a name of their own, such as `lts`: they are known by the whole name only, so that
`corretto-lts` states no requirement (`Requirement.decoration_keeps_rule_unless_named`).
-/

namespace JdkFinder

open Text

/-! ## §1 Names with another word in front -/

/-- A word and a hyphen in front of a name make it a name with one more word. -/
theorem nameWords_decorated {word : List Char} (h : IsNameWord word) (name : List Char) :
    nameWords (lowercase (trim (word ++ '-' :: name))) =
      word :: nameWords (lowercase (trim name)) := by
  obtain ⟨blanks, hblanks, hend⟩ := exists_blanks_append_trim name
  have hfront : ∀ c ∈ blanks, isSeparator c = true :=
    fun c hc => isSeparator_of_isBlank (hblanks c hc)
  have htrim : trim (word ++ '-' :: name) = word ++ '-' :: (blanks ++ trim name) := by
    obtain ⟨c, cs, rfl⟩ := List.exists_cons_of_ne_nil h.ne_nil
    rw [trim_cons_append_cons (h.solid c List.mem_cons_self) (by decide), hend]
  rw [htrim, lowercase_append_hyphen h.lower, lowercase_blanks_append hblanks,
    nameWords_append_cons isSeparator_hyphen, nameWords_separators_append hfront,
    h.nameWords_eq, List.singleton_append]

/-! ## §2 Rules with a name of their own -/

/-- The whole name is the name of a rule. -/
def NamesRule (name : List Char) : Prop :=
  (namedSpec? (lowercase (trim name))).isSome = true

instance (name : List Char) : Decidable (NamesRule name) :=
  inferInstanceAs (Decidable (_ = true))

theorem namedSpec?_cases {text : List Char} {spec : VersionSpec} (h : namedSpec? text = some spec) :
    text ∈ ["lts", "latest-lts", "latest", "newest"].map String.toList := by
  unfold namedSpec? at h
  split at h
  · rename_i hlongTerm
    rcases hlongTerm with rfl | rfl <;> decide
  · split at h
    · rename_i hlatest
      rcases hlatest with rfl | rfl <;> decide
    · cases h

/-- The words that the names of rules begin with. -/
def ruleWords : List (List Char) :=
  ["lts", "latest", "newest"].map String.toList

theorem exists_nameWords_of_namedSpec? {text : List Char} {spec : VersionSpec}
    (h : namedSpec? text = some spec) :
    ∃ word ∈ ruleWords, ∃ rest, nameWords text = word :: rest := by
  have hall : ∀ text ∈ ["lts", "latest-lts", "latest", "newest"].map String.toList,
      ∃ word ∈ ruleWords, (nameWords text).head? = some word := by
    decide
  obtain ⟨word, hword, hhead⟩ := hall text (namedSpec?_cases h)
  obtain ⟨rest, hrest⟩ := List.head?_eq_some_iff.mp hhead
  exact ⟨word, hword, rest, hrest⟩

/-- What names a rule is not read as a version. -/
theorem parse?_of_namedSpec? {text : List Char} {spec : VersionSpec}
    (h : namedSpec? text = some spec) :
    VersionSpec.parse? (['-'].intercalate (splitWords none (nameWords text)).2) = none := by
  have hall : ∀ text ∈ ["lts", "latest-lts", "latest", "newest"].map String.toList,
      VersionSpec.parse? (['-'].intercalate (splitWords none (nameWords text)).2) = none := by
    decide +kernel
  exact hall text (namedSpec?_cases h)

/-! ## §3 Words in front -/

/-- A vendor that is known beforehand is kept, and nothing else depends on it. -/
theorem splitWords_eq (vendor : Option Vendor) (words : List (List Char)) :
    splitWords vendor words =
      (vendor.or (splitWords none words).1, (splitWords none words).2) := by
  -- On the words: the first alias names the vendor, so one that was found before stays.
  induction words generalizing vendor with
  | nil => simp [splitWords]
  | cons word words ih =>
    rw [splitWords, splitWords]
    by_cases hnoise : noiseWords.contains word = true
    · rw [if_pos hnoise, if_pos hnoise, ih]
    · rw [if_neg hnoise, if_neg hnoise]
      cases Vendor.ofAlias? word with
      | none => simp
      | some found =>
        dsimp only
        rw [ih, ih (none.or (some found)), Option.none_or, Option.or_assoc]

/-- A word that can stand in front of a name, with the vendor that it adds. -/
structure IsDecoration (word : List Char) (vendor : Option Vendor) : Prop where
  isNameWord : IsNameWord word
  notNamed : word ∉ ruleWords
  splitWords_cons : ∀ rest, splitWords none (word :: rest) = splitWords vendor rest

theorem isDecoration_noise {word : List Char} (h : word ∈ noiseWords) : IsDecoration word none := by
  have hall : ∀ word ∈ noiseWords, IsNameWord word ∧ word ∉ ruleWords := by decide
  obtain ⟨hword, hnamed⟩ := hall word h
  refine ⟨hword, hnamed, fun rest => ?_⟩
  rw [splitWords, if_pos (List.contains_iff_mem.mpr h)]

/-- Every word for a vendor adds that vendor, except for the one without meaning. -/
theorem isDecoration_alias {vendor : Vendor} {word : String} (h : word ∈ vendor.aliases)
    (hword : word ≠ "openjdk") :
    Vendor.ofAlias? word.toList = some vendor ∧ IsDecoration word.toList (some vendor) := by
  have hall : ∀ word ∈ vendor.aliases, word ≠ "openjdk" →
      IsNameWord word.toList ∧ word.toList ∉ ruleWords ∧
      noiseWords.contains word.toList = false ∧ Vendor.ofAlias? word.toList = some vendor := by
    cases vendor <;> decide
  obtain ⟨hword, hnamed, hnoise, halias⟩ := hall word h hword
  refine ⟨halias, hword, hnamed, fun rest => ?_⟩
  rw [splitWords, hnoise, halias]
  rfl

namespace Requirement

/-- Reading a name that does not name a rule. -/
theorem parse?_of_notNamed {name : List Char} (h : ¬ NamesRule name) :
    parse? name =
      (VersionSpec.parse? (['-'].intercalate
        (splitWords none (nameWords (lowercase (trim name)))).2)).map
        (⟨·, (splitWords none (nameWords (lowercase (trim name)))).1⟩) := by
  have hnone : namedSpec? (lowercase (trim name)) = none := by
    rwa [NamesRule, Option.not_isSome_iff_eq_none] at h
  unfold parse?
  dsimp only
  rw [hnone]

theorem parse?_decorated {word name : List Char} {vendor : Option Vendor}
    (hword : IsDecoration word vendor) {spec : VersionSpec} (h : parse? name = some ⟨spec, none⟩) :
    parse? (word ++ '-' :: name) = if NamesRule name then none else some ⟨spec, vendor⟩ := by
  have hwords := nameWords_decorated hword.isNameWord name
  -- The name of a rule does not start with such a word.
  have hdecorated : ¬ NamesRule (word ++ '-' :: name) := by
    intro hnamed
    obtain ⟨spec', hspec'⟩ := Option.isSome_iff_exists.mp hnamed
    obtain ⟨first, hfirst, rest, hrest⟩ := exists_nameWords_of_namedSpec? hspec'
    rw [hwords] at hrest
    exact hword.notNamed ((List.cons.inj hrest).1 ▸ hfirst)
  rw [parse?_of_notNamed hdecorated, hwords, hword.splitWords_cons, splitWords_eq]
  split
  · rename_i hnamed
    obtain ⟨spec', hspec'⟩ := Option.isSome_iff_exists.mp hnamed
    rw [parse?_of_namedSpec? hspec', Option.map_none]
  · rename_i hnamed
    rw [parse?_of_notNamed hnamed] at h
    obtain ⟨spec', hspec', hr⟩ := Option.map_eq_some_iff.mp h
    obtain ⟨rfl, hvendor⟩ := Requirement.mk.inj hr
    rw [hspec', hvendor, Option.or_none, Option.map_some]

/-- A word for a vendor in front of a name that asks for no vendor adds that vendor, and a word
without meaning adds nothing.  The rule on versions is kept, unless the whole name is the name of a
rule: with a word in front of it, it states nothing any more. -/
theorem decoration_keeps_rule_unless_named {name : List Char} {spec : VersionSpec}
    (h : parse? name = some ⟨spec, none⟩) :
    (∀ vendor : Vendor, ∀ word ∈ vendor.aliases, word ≠ "openjdk" →
      Vendor.ofAlias? word.toList = some vendor ∧
        parse? (word.toList ++ '-' :: name) =
          if NamesRule name then none else some ⟨spec, some vendor⟩) ∧
    ∀ word ∈ noiseWords, parse? (word ++ '-' :: name) =
      if NamesRule name then none else some ⟨spec, none⟩ := by
  constructor
  · intro vendor word hmem hword
    obtain ⟨halias, hdecoration⟩ := isDecoration_alias hmem hword
    exact ⟨halias, parse?_decorated hdecoration h⟩
  · intro word hmem
    exact parse?_decorated (isDecoration_noise hmem) h

/-- What `jdk 11+` asks for is asked of one vendor with the word for it in front. -/
theorem corretto_from_11_on :
    let name := "jdk 11+".toList
    parse? name = some ⟨.atLeast 11, none⟩ ∧ "amazon" ∈ Vendor.corretto.aliases ∧
      "openjdk".toList ∈ noiseWords ∧ ¬ NamesRule name ∧
      parse? ("amazon".toList ++ '-' :: name) = some ⟨.atLeast 11, some .corretto⟩ ∧
      parse? ("openjdk".toList ++ '-' :: name) = some ⟨.atLeast 11, none⟩ := by
  intro name
  have hname : parse? name = some ⟨.atLeast 11, none⟩ := by decide +kernel
  have halias : "amazon" ∈ Vendor.corretto.aliases := by decide
  have hnoise : "openjdk".toList ∈ noiseWords := by decide
  have hnamed : ¬ NamesRule name := by decide
  obtain ⟨hvendors, hnoises⟩ := decoration_keeps_rule_unless_named hname
  have hvendor := (hvendors .corretto "amazon" halias (by decide)).2
  have hplain := hnoises "openjdk".toList hnoise
  rw [if_neg hnamed] at hvendor hplain
  exact ⟨hname, halias, hnoise, hnamed, hvendor, hplain⟩

/-- The rule for releases with long-term support is lost behind any word. -/
theorem lts_lost_behind_word :
    parse? "lts".toList = some ⟨.longTerm, none⟩ ∧ "corretto" ∈ Vendor.corretto.aliases ∧
      "jdk".toList ∈ noiseWords ∧ Vendor.ofAlias? "corretto".toList = some .corretto ∧
      parse? ("corretto".toList ++ '-' :: "lts".toList) = none ∧
      parse? ("jdk".toList ++ '-' :: "lts".toList) = none := by
  refine ⟨?_, ?_, ?_, ?_, ?_, ?_⟩
  all_goals decide +kernel

end Requirement

end JdkFinder
