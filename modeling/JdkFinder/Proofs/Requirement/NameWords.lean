import JdkFinder.Proofs.Text.Pieces
import JdkFinder.Proofs.Text.Words
import JdkFinder.Requirement.Parser

/-!
# The words of names

White space and hyphens part the words of a name, in any number and in any order.  So the two sides
of such a character have their words each for itself (`nameWords_append_cons`), and a name can be
taken apart at each of its words (`HasWords.exists_append`).
-/

namespace JdkFinder

open Text

/-! ## §1 Names side by side -/

/-- What parts the words of a name. -/
def isSeparator (c : Char) : Bool :=
  isBlank c || c == '-'

theorem isSeparator_hyphen : isSeparator '-' = true :=
  rfl

theorem isSeparator_of_isBlank {c : Char} (h : isBlank c = true) : isSeparator c = true := by
  rw [isSeparator, h, Bool.true_or]

/-- The pieces of texts that are put together with hyphens are the pieces of each of them. -/
theorem filter_splitOn_intercalate (words : List (List Char)) :
    ((['-'].intercalate words).splitOn '-').filter (!·.isEmpty) =
      words.flatMap fun word => (word.splitOn '-').filter (!·.isEmpty) := by
  induction words with
  | nil => simp
  | cons word words ih =>
    cases words with
    | nil => simp
    | cons next words =>
      have hsplit : (word ++ '-' :: ['-'].intercalate (next :: words)).splitOn '-' =
          word.splitOn '-' ++ (['-'].intercalate (next :: words)).splitOn '-' :=
        List.splitOnP_append_cons _ _ (beq_self_eq_true '-')
      rw [List.flatMap_cons, List.intercalate_cons_cons, List.append_assoc,
        List.singleton_append, hsplit, List.filter_append, ih]

/-- The words of a name are what stands between its white space and its hyphens. -/
theorem nameWords_eq (name : List Char) :
    nameWords name = (name.splitOnP isSeparator).filter (!·.isEmpty) := by
  have hempty : ∀ pieces : List (List Char),
      (pieces.filter (!·.isEmpty)).flatMap (fun piece => (piece.splitOn '-').filter (!·.isEmpty)) =
        pieces.flatMap fun piece => (piece.splitOn '-').filter (!·.isEmpty) := by
    intro pieces
    induction pieces with
    | nil => rfl
    | cons piece pieces ih => cases piece <;> simp [ih]
  have hseparator : isSeparator = fun c => isBlank c || c == '-' := rfl
  rw [nameWords, filter_splitOn_intercalate, words_eq, hempty, hseparator, splitOnP_or,
    List.filter_flatMap]
  rfl

@[simp] theorem nameWords_nil : nameWords [] = [] :=
  rfl

theorem nameWords_append_cons {c : Char} (hc : isSeparator c = true) (before after : List Char) :
    nameWords (before ++ c :: after) = nameWords before ++ nameWords after := by
  rw [nameWords_eq, nameWords_eq, nameWords_eq, List.splitOnP_append_cons _ _ hc,
    List.filter_append]

theorem nameWords_cons {c : Char} (hc : isSeparator c = true) (name : List Char) :
    nameWords (c :: name) = nameWords name := by
  have hsides := nameWords_append_cons hc [] name
  rwa [List.nil_append, nameWords_nil, List.nil_append] at hsides

/-- Separators in front of a name part no words. -/
theorem nameWords_separators_append {front : List Char} (h : ∀ c ∈ front, isSeparator c = true)
    (name : List Char) : nameWords (front ++ name) = nameWords name := by
  induction front with
  | nil => rfl
  | cons c front ih =>
    rw [List.cons_append, nameWords_cons (h c List.mem_cons_self),
      ih fun d hd => h d (List.mem_cons_of_mem c hd)]

/-- A text without separators is one word. -/
theorem nameWords_of_word {word : List Char} (hne : word ≠ [])
    (h : ∀ c ∈ word, isSeparator c = false) : nameWords word = [word] := by
  rw [nameWords_eq, List.splitOnP_eq_singleton h]
  simpa using hne

/-! ## §2 Where the words stand -/

/-- The words of a name from its front to its end, with what parts them. -/
inductive HasWords : List Char → List (List Char) → Prop
  /-- The name is white space and hyphens. -/
  | none {gap : List Char} (hgap : ∀ c ∈ gap, isSeparator c = true) : HasWords gap []
  /-- A word stands in the name, as long as it can be. -/
  | word {gap word rest : List Char} {words : List (List Char)}
      (hgap : ∀ c ∈ gap, isSeparator c = true) (hne : word ≠ [])
      (hword : ∀ c ∈ word, isSeparator c = false) (hrest : ∀ c ∈ rest.head?, isSeparator c = true)
      (h : HasWords rest words) : HasWords (gap ++ (word ++ rest)) (word :: words)

theorem nameWords_word_append {word rest : List Char} (hne : word ≠ [])
    (hword : ∀ c ∈ word, isSeparator c = false) (hrest : ∀ c ∈ rest.head?, isSeparator c = true) :
    nameWords (word ++ rest) = word :: nameWords rest := by
  cases rest with
  | nil => rw [List.append_nil, nameWords_of_word hne hword, nameWords_nil]
  | cons c rest =>
    have hc : isSeparator c = true := hrest c rfl
    rw [nameWords_append_cons hc, nameWords_of_word hne hword, nameWords_cons hc,
      List.singleton_append]

theorem hasWords (name : List Char) : HasWords name (nameWords name) := by
  obtain ⟨gap, tail, rfl, hgap, htail⟩ := exists_run_append isSeparator name
  rw [nameWords_separators_append hgap]
  cases tail with
  | nil =>
    rw [List.append_nil]
    exact .none hgap
  | cons c tail =>
    have hc : isSeparator c = false := htail c rfl
    -- The word goes on up to the next separator, and the rest of the name is shorter.
    obtain ⟨others, rest, rfl, hothers, hend⟩ := exists_run_append (!isSeparator ·) tail
    have hword : ∀ d ∈ c :: others, isSeparator d = false := by
      rw [List.forall_mem_cons]
      exact ⟨hc, fun d hd => by simpa using hothers d hd⟩
    have hrest : ∀ d ∈ rest.head?, isSeparator d = true := fun d hd => by simpa using hend d hd
    have hmore := hasWords rest
    rw [← List.cons_append, nameWords_word_append (List.cons_ne_nil c others) hword hrest]
    exact .word hgap (List.cons_ne_nil c others) hword hrest hmore
termination_by name.length

section HasWords

variable {name : List Char} {words : List (List Char)}

/-- No separator stands in a word. -/
theorem HasWords.isSeparator (h : HasWords name words) {word : List Char} (hmem : word ∈ words) :
    ∀ c ∈ word, isSeparator c = false := by
  induction h with
  | none => cases hmem
  | word _ _ hword _ _ ih =>
    rcases List.mem_cons.mp hmem with rfl | hmem
    · exact hword
    · exact ih hmem

/-- Every character of a name parts words or stands in one. -/
theorem HasWords.cases_of_mem (h : HasWords name words) {c : Char} (hc : c ∈ name) :
    JdkFinder.isSeparator c = true ∨ ∃ word ∈ words, c ∈ word := by
  induction h with
  | none hgap => exact .inl (hgap c hc)
  | word hgap _ _ _ _ ih =>
    rw [List.mem_append, List.mem_append] at hc
    rcases hc with hc | hc | hc
    · exact .inl (hgap c hc)
    · exact .inr ⟨_, List.mem_cons_self, hc⟩
    · rcases ih hc with hseparator | ⟨other, hother, hc⟩
      · exact .inl hseparator
      · exact .inr ⟨other, List.mem_cons_of_mem _ hother, hc⟩

/-- A name can be taken apart at each of its words. -/
theorem HasWords.exists_append {before after : List (List Char)} {word : List Char}
    (h : HasWords name (before ++ word :: after)) :
    ∃ front back, name = front ++ (word ++ back) ∧ HasWords front before ∧ HasWords back after := by
  -- On the words before the one that is looked for.
  induction before generalizing name with
  | nil =>
    cases h with
    | word hgap hne hword hrest hmore => exact ⟨_, _, rfl, .none hgap, hmore⟩
  | cons first before ih =>
    cases h with
    | word hgap hne hword hrest hmore =>
      obtain ⟨front, back, rfl, hfront, hback⟩ := ih hmore
      refine ⟨_ ++ (first ++ front), back, by simp, .word hgap hne hword ?_ hfront, hback⟩
      intro c hc
      apply hrest
      rw [List.head?_append, Option.mem_def.mp hc]
      rfl

end HasWords

/-! ## §3 Words in front of the version -/

/-- No word for a vendor and no word without meaning has a digit. -/
theorem noDigit_of_mem_aliases {vendor : Vendor} {word : String} (h : word ∈ vendor.aliases) :
    ∀ c ∈ word.toList, isDigit c = false := by
  have hall : ∀ other ∈ vendor.aliases,
      other.toList.all (fun c => decide (isDigit c = false)) = true := by
    cases vendor <;> decide
  exact forall_of_all (hall word h)

theorem noDigit_of_mem_noiseWords {word : List Char} (h : word ∈ noiseWords) :
    ∀ c ∈ word, isDigit c = false := by
  have hall : ∀ other ∈ noiseWords, other.all (fun c => decide (isDigit c = false)) = true := by
    decide
  exact forall_of_all (hall word h)

/-- The words in front of the version are without meaning or stand for vendors. -/
theorem exists_skipped {vendor found : Option Vendor} {words version : List (List Char)}
    (h : splitWords vendor words = (found, version)) :
    ∃ skipped, words = skipped ++ version ∧
      ∀ word ∈ skipped, word ∈ noiseWords ∨ ∃ other, Vendor.ofAlias? word = some other := by
  -- On the words; the vendor may change when an alias is passed over.
  induction words generalizing vendor with
  | nil =>
    cases h
    exact ⟨[], rfl, by simp⟩
  | cons word words ih =>
    rw [splitWords] at h
    split at h
    · -- A noise word is passed over and leaves the vendor.
      rename_i hnoise
      obtain ⟨skipped, rfl, hskipped⟩ := ih h
      refine ⟨word :: skipped, rfl, ?_⟩
      rw [List.forall_mem_cons]
      exact ⟨.inl (List.contains_iff_mem.mp hnoise), hskipped⟩
    · split at h
      · -- An alias is passed over, and is the vendor if none was found before.
        rename_i other hother
        obtain ⟨skipped, rfl, hskipped⟩ := ih h
        refine ⟨word :: skipped, rfl, ?_⟩
        rw [List.forall_mem_cons]
        exact ⟨.inr ⟨other, hother⟩, hskipped⟩
      · -- The version starts with the first word that is neither.
        cases h
        exact ⟨[], rfl, by simp⟩

end JdkFinder
