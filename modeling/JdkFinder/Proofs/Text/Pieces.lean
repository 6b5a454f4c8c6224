import JdkFinder.Text.Blank
import JdkFinder.Text.Pieces

/-!
# Taking texts apart

What is put in front of a text or behind it can be taken off again, and nothing is taken off a text
that does not have it.  A text is one line after the other.
-/

namespace JdkFinder.Text

/-- What holds of all characters of a text can be found out one by one. -/
theorem forall_of_all {p : Char → Prop} [DecidablePred p] {s : List Char}
    (h : s.all (fun c => decide (p c)) = true) : ∀ c ∈ s, p c := by
  intro c hc
  exact of_decide_eq_true (List.all_eq_true.mp h c hc)

/-! ## §1 Beginnings -/

theorem stripPrefix?_append (beginning rest : List Char) :
    stripPrefix? beginning (beginning ++ rest) = some rest := by
  induction beginning with
  | nil => rfl
  | cons b bs ih => simp only [List.cons_append, stripPrefix?, ↓reduceIte, ih]

theorem stripPrefix?_eq_some_iff {beginning s rest : List Char} :
    stripPrefix? beginning s = some rest ↔ s = beginning ++ rest := by
  constructor
  · intro h
    induction beginning generalizing s with
    | nil => exact Option.some.inj h
    | cons b bs ih =>
      cases s with
      | nil => cases h
      | cons c cs =>
        obtain ⟨rfl, hcs⟩ := Option.ite_none_right_eq_some.mp h
        rw [ih hcs, List.cons_append]
  · rintro rfl
    exact stripPrefix?_append beginning rest

theorem stripPrefix?_eq_none {b : Char} {bs s : List Char} (h : ∀ c ∈ s.head?, c ≠ b) :
    stripPrefix? (b :: bs) s = none := by
  cases s with
  | nil => rfl
  | cons c cs =>
    have hne : b ≠ c := fun heq => h c rfl heq.symm
    simp only [stripPrefix?, hne, ↓reduceIte]

theorem dropCopies_eq_self {b : Char} {bs s : List Char} (h : ∀ c ∈ s.head?, c ≠ b) :
    dropCopies (b :: bs) s = s := by
  rw [dropCopies, dif_neg (by simp)]
  split
  · rfl
  · rename_i hrest
    rw [stripPrefix?_eq_none h] at hrest
    cases hrest

/-- What is dropped from the front of a text are copies of the word. -/
theorem exists_append_dropCopies (word s : List Char) :
    ∃ dropped, s = dropped ++ dropCopies word s ∧ ∀ c ∈ dropped, c ∈ word := by
  rw [dropCopies]
  split
  · exact ⟨[], rfl, by simp⟩
  · split
    · exact ⟨[], rfl, by simp⟩
    · rename_i hne rest hrest
      -- What is left behind one copy is shorter.
      have hlength := length_le_of_stripPrefix? hrest
      have hpos := List.length_pos_iff.mpr hne
      obtain ⟨dropped, hdropped, hmem⟩ := exists_append_dropCopies word rest
      refine ⟨word ++ dropped, ?_, ?_⟩
      · rw [List.append_assoc, ← hdropped, ← stripPrefix?_eq_some_iff.mp hrest]
      · intro c hc
        rcases List.mem_append.mp hc with hc | hc
        · exact hc
        · exact hmem c hc
termination_by s.length

/-! ## §2 Ends -/

theorem stripSuffix?_append (s ending : List Char) :
    stripSuffix? ending (s ++ ending) = some s := by
  rw [stripSuffix?, List.reverse_append, stripPrefix?_append, Option.map_some,
    List.reverse_reverse]

theorem stripSuffix?_eq_none (bs : List Char) {b : Char} {s : List Char}
    (h : ∀ c ∈ s.getLast?, c ≠ b) :
    stripSuffix? (bs ++ [b]) s = none := by
  have hnone : stripPrefix? (b :: bs.reverse) s.reverse = none := by
    apply stripPrefix?_eq_none
    rwa [List.head?_reverse]
  rw [stripSuffix?, List.reverse_append, List.reverse_singleton, List.singleton_append, hnone]
  rfl

theorem stripSuffix?_eq_some_iff {ending s rest : List Char} :
    stripSuffix? ending s = some rest ↔ s = rest ++ ending := by
  constructor
  · intro h
    obtain ⟨reversed, hreversed, rfl⟩ := Option.map_eq_some_iff.mp h
    have hs := congrArg List.reverse (stripPrefix?_eq_some_iff.mp hreversed)
    rwa [List.reverse_append, List.reverse_reverse, List.reverse_reverse] at hs
  · rintro rfl
    exact stripSuffix?_append rest ending

/-! ## §3 Runs of characters -/

section Runs

variable {p : Char → Bool} {run rest : List Char}

theorem takeWhile_run (hrun : ∀ c ∈ run, p c = true) (hrest : ∀ c ∈ rest.head?, p c = false) :
    (run ++ rest).takeWhile p = run := by
  rw [List.takeWhile_append_of_pos hrun]
  cases rest with
  | nil => simp
  | cons c cs =>
    have hc : p c = false := hrest c rfl
    simp [hc]

theorem dropWhile_run (hrun : ∀ c ∈ run, p c = true) (hrest : ∀ c ∈ rest.head?, p c = false) :
    (run ++ rest).dropWhile p = rest := by
  rw [List.dropWhile_append_of_pos hrun]
  cases rest with
  | nil => rfl
  | cons c cs =>
    have hc : p c = false := hrest c rfl
    simp [hc]

/-- Every text starts with a run, which may be empty, and goes on with something else. -/
theorem exists_run_append (p : Char → Bool) (s : List Char) :
    ∃ run rest, s = run ++ rest ∧ (∀ c ∈ run, p c = true) ∧ ∀ c ∈ rest.head?, p c = false := by
  induction s with
  | nil => exact ⟨[], [], rfl, by simp, by simp⟩
  | cons c s ih =>
    -- The run ends at the first character that does not satisfy the predicate.
    cases hc : p c with
    | true =>
      obtain ⟨run, rest, rfl, hrun, hrest⟩ := ih
      exact ⟨c :: run, rest, rfl, List.forall_mem_cons.mpr ⟨hc, hrun⟩, hrest⟩
    | false =>
      refine ⟨[], c :: s, rfl, by simp, ?_⟩
      intro d hd
      cases hd
      exact hc

end Runs

/-! ## §4 Separators -/

theorem splitOnce?_eq_none {sep : Char} {s : List Char} (h : sep ∉ s) :
    splitOnce? sep s = none := by
  induction s with
  | nil => rfl
  | cons c cs ih =>
    have hc : c ≠ sep := fun heq => h (heq ▸ List.mem_cons_self)
    have hcs : sep ∉ cs := fun hmem => h (List.mem_cons_of_mem c hmem)
    rw [splitOnce?, if_neg hc, ih hcs]
    rfl

theorem splitOnce?_append {sep : Char} {before : List Char} (h : sep ∉ before)
    (after : List Char) : splitOnce? sep (before ++ sep :: after) = some (before, after) := by
  induction before with
  | nil => rw [List.nil_append, splitOnce?, if_pos rfl]
  | cons c cs ih =>
    have hc : c ≠ sep := fun heq => h (heq ▸ List.mem_cons_self)
    have hcs : sep ∉ cs := fun hmem => h (List.mem_cons_of_mem c hmem)
    rw [List.cons_append, splitOnce?, if_neg hc, ih hcs, Option.map_some]

theorem eq_append_of_splitOnce? {sep : Char} {s before after : List Char}
    (h : splitOnce? sep s = some (before, after)) : s = before ++ sep :: after := by
  induction s generalizing before with
  | nil => cases h
  | cons c cs ih =>
    rw [splitOnce?] at h
    split at h
    · rename_i hc
      cases h
      rw [hc, List.nil_append]
    · obtain ⟨⟨front, back⟩, hcs, hpair⟩ := Option.map_eq_some_iff.mp h
      cases hpair
      rw [ih hcs, List.cons_append]

theorem cases_of_mem_intercalate {sep c : Char} {pieces : List (List Char)}
    (h : c ∈ [sep].intercalate pieces) : c = sep ∨ ∃ piece ∈ pieces, c ∈ piece := by
  induction pieces with
  | nil => cases h
  | cons piece pieces ih =>
    -- Only between two pieces stands the separator.
    cases pieces with
    | nil =>
      rw [List.intercalate_singleton] at h
      exact .inr ⟨piece, List.mem_cons_self, h⟩
    | cons next pieces =>
      rw [List.intercalate_cons_cons, List.append_assoc, List.mem_append, List.mem_append] at h
      rcases h with h | h | h
      · exact .inr ⟨piece, List.mem_cons_self, h⟩
      · exact .inl (List.mem_singleton.mp h)
      · rcases ih h with hsep | ⟨other, hother, hc⟩
        · exact .inl hsep
        · exact .inr ⟨other, List.mem_cons_of_mem piece hother, hc⟩

/-! ## §5 White space -/

/-- The code points of white space. -/
def blankCodes : List Nat :=
  [9, 10, 11, 12, 13, 0x20, 0x85, 0xA0, 0x1680, 0x2000, 0x2001, 0x2002, 0x2003, 0x2004, 0x2005,
   0x2006, 0x2007, 0x2008, 0x2009, 0x200A, 0x2028, 0x2029, 0x202F, 0x205F, 0x3000]

/-- What holds of the white space that there is holds of all white space. -/
theorem of_isBlank {p : Char → Prop} (hall : ∀ n ∈ blankCodes, p (Char.ofNat n)) {c : Char}
    (h : isBlank c = true) : p c := by
  have hcode : c.toNat ∈ blankCodes := by
    simp only [isBlank, Bool.or_eq_true, Bool.and_eq_true, decide_eq_true_iff, beq_iff_eq] at h
    simp only [blankCodes, List.mem_cons, List.not_mem_nil, or_false]
    omega
  rw [← Char.ofNat_toNat c]
  exact hall c.toNat hcode

/-- Nothing is stripped off a text that neither starts nor ends with a character to strip. -/
theorem stripWhile_eq_self {p : Char → Bool} {s : List Char} (hfront : ∀ c ∈ s.head?, p c = false)
    (hback : ∀ c ∈ s.getLast?, p c = false) : stripWhile p s = s := by
  have hdrop (t : List Char) (ht : ∀ c ∈ t.head?, p c = false) : t.dropWhile p = t := by
    cases t with
    | nil => rfl
    | cons c cs =>
      have hc : p c = false := ht c rfl
      simp [hc]
  rw [stripWhile, dropEndWhile, hdrop s hfront, hdrop s.reverse, List.reverse_reverse]
  rwa [List.head?_reverse]

theorem trim_eq_self {s : List Char} (h : ∀ c ∈ s, isBlank c = false) : trim s = s :=
  stripWhile_eq_self (fun c hc => h c (List.mem_of_mem_head? hc))
    fun c hc => h c (List.mem_of_mem_getLast? hc)

/-! ## §6 Lines -/

theorem chomp_append_return (line : List Char) : chomp (line ++ ['\r']) = line := by
  rw [chomp, stripSuffix?_append, Option.getD_some]

theorem chomp_eq_self {line : List Char} (h : ∀ c ∈ line.getLast?, c ≠ '\r') :
    chomp line = line := by
  have hnone : stripSuffix? ['\r'] line = none := stripSuffix?_eq_none [] h
  rw [chomp, hnone, Option.getD_none]

theorem mem_of_mem_chomp {line : List Char} {c : Char} (h : c ∈ chomp line) : c ∈ line := by
  rw [chomp] at h
  cases hstrip : stripSuffix? ['\r'] line with
  | none => rwa [hstrip] at h
  | some rest =>
    rw [hstrip] at h
    rw [stripSuffix?_eq_some_iff.mp hstrip]
    exact List.mem_append_left _ h

/-- A line feed ends the first line. -/
theorem lines_append_cons {line : List Char} (h : '\n' ∉ line) (rest : List Char) :
    lines (line ++ '\n' :: rest) = chomp line :: lines rest := by
  have hrest := List.splitOn_ne_nil '\n' rest
  rw [lines, lines, List.splitOn_append_cons_self, List.splitOn_eq_singleton h,
    List.singleton_append, List.dropLast_cons_of_ne_nil hrest, List.getLast?_cons_of_ne_nil hrest,
    List.map_cons, List.cons_append]

/-- What no line feed ends is one line, unless it is empty. -/
theorem lines_eq_of_notMem {s : List Char} (h : '\n' ∉ s) :
    lines s = [s].filter (!·.isEmpty) := by
  rw [lines, List.splitOn_eq_singleton h]
  rfl

end JdkFinder.Text
