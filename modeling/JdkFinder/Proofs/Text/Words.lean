import JdkFinder.Text.Blank
import Mathlib.Data.List.TakeWhile

/-!
# Words of texts

The words of a text are the pieces between its white space, and so they can be found piece by piece.
Trimming takes white space off the ends only: behind a word, a text is trimmed at its end.
-/

namespace JdkFinder.Text

/-! ## §1 Words -/

/-- Cutting a text at two kinds of characters is cutting it at the one kind, and then the pieces at
the other. -/
theorem splitOnP_or (p q : Char → Bool) (s : List Char) :
    s.splitOnP (fun c => p c || q c) = (s.splitOnP p).flatMap (·.splitOnP q) := by
  induction s with
  | nil => simp [List.splitOnP_nil]
  | cons c cs ih =>
    rw [List.splitOnP_cons_eq_if_modifyHead, List.splitOnP_cons_eq_if_modifyHead, ih]
    by_cases hp : p c = true
    · simp [hp, List.splitOnP_nil]
    · -- The character belongs to the first piece of the rest, which may be cut next.
      obtain ⟨first, rest, hsplit⟩ := List.exists_cons_of_ne_nil (List.splitOnP_ne_nil p cs)
      rw [Bool.not_eq_true] at hp
      rw [hsplit, hp, Bool.false_or, if_neg Bool.false_ne_true, List.modifyHead_cons,
        List.flatMap_cons, List.flatMap_cons, List.splitOnP_cons_eq_if_modifyHead]
      by_cases hq : q c = true
      · rw [if_pos hq, if_pos hq, List.cons_append]
      · obtain ⟨piece, pieces, hpieces⟩ :=
          List.exists_cons_of_ne_nil (List.splitOnP_ne_nil q first)
        rw [if_neg hq, if_neg hq, hpieces, List.cons_append, List.modifyHead_cons,
          List.modifyHead_cons, List.cons_append]

/-- The runs that a text is read as are its pieces between white space, except that an empty piece
at the end is left out. -/
theorem splitOnP_isBlank (s : List Char) :
    ∃ last, s.splitOnP isBlank = s.foldr words.step [] ++ last ∧ (last = [] ∨ last = [[]]) ∧
      (s ≠ [] → s.foldr words.step [] ≠ []) := by
  induction s with
  | nil => exact ⟨[[]], by simp [List.splitOnP_nil], .inr rfl, fun h => absurd rfl h⟩
  | cons c cs ih =>
    obtain ⟨last, hsplit, hlast, hne⟩ := ih
    rw [List.splitOnP_cons_eq_if_modifyHead, hsplit, List.foldr_cons]
    cases hruns : cs.foldr words.step [] with
    | nil =>
      -- Without a run there is no more text, and its only piece is the empty one.
      obtain rfl : cs = [] := Decidable.byContradiction fun hcs => hne hcs hruns
      obtain rfl : last = [[]] := by simpa [List.splitOnP_nil] using hsplit.symm
      by_cases hc : isBlank c = true
      · exact ⟨[[]], by simp [words.step, hc]⟩
      · exact ⟨[], by simp [words.step, hc]⟩
    | cons run runs =>
      refine ⟨last, ?_, hlast, fun _ => ?_⟩
      · by_cases hc : isBlank c = true <;> simp [words.step, hc]
      · by_cases hc : isBlank c = true <;> simp [words.step, hc]

theorem words_eq (s : List Char) : words s = (s.splitOnP isBlank).filter (!·.isEmpty) := by
  obtain ⟨last, hsplit, hlast, -⟩ := splitOnP_isBlank s
  rw [words, hsplit, List.filter_append]
  rcases hlast with rfl | rfl <;> simp

/-! ## §2 Trimming -/

/-- What stands in front of a character that is not dropped stays as it is. -/
theorem dropEndWhile_append_cons {p : Char → Bool} {c : Char} (hc : p c = false)
    (s rest : List Char) : dropEndWhile p (s ++ c :: rest) = s ++ c :: dropEndWhile p rest := by
  have hdrop : (s ++ c :: rest).reverse.dropWhile p =
      rest.reverse.dropWhile p ++ c :: s.reverse := by
    rw [List.reverse_append, List.reverse_cons, List.append_assoc, List.singleton_append,
      List.dropWhile_append]
    split
    · rename_i hempty
      rw [List.isEmpty_iff.mp hempty]
      simp [hc]
    · rfl
  rw [dropEndWhile, dropEndWhile, hdrop]
  simp

/-- A text that starts with no white space is trimmed at its end only. -/
theorem trim_cons_append_cons {c d : Char} (hc : isBlank c = false) (hd : isBlank d = false)
    (s rest : List Char) :
    trim (c :: s ++ d :: rest) = c :: s ++ d :: dropEndWhile isBlank rest := by
  have hfront : (c :: s ++ d :: rest).dropWhile isBlank = c :: s ++ d :: rest := by
    simp [hc]
  rw [trim, stripWhile, hfront, dropEndWhile_append_cons hd]

theorem dropEndWhile_append {p : Char → Bool} {back : List Char} (hback : ∀ c ∈ back, p c = true)
    (s : List Char) : dropEndWhile p (s ++ back) = dropEndWhile p s := by
  rw [dropEndWhile, dropEndWhile, List.reverse_append, List.dropWhile_append_of_pos]
  intro c hc
  exact hback c (List.mem_reverse.mp hc)

/-- Characters to strip at the ends of a text are gone when it is stripped. -/
theorem stripWhile_append {p : Char → Bool} {front back : List Char}
    (hfront : ∀ c ∈ front, p c = true) (hback : ∀ c ∈ back, p c = true) (s : List Char) :
    stripWhile p (front ++ (s ++ back)) = stripWhile p s := by
  rw [stripWhile, stripWhile, List.dropWhile_append_of_pos hfront, List.dropWhile_append]
  split
  · -- All of the text is to be stripped.
    rename_i hempty
    rw [List.isEmpty_iff.mp hempty, List.dropWhile_eq_nil_iff.mpr hback]
  · exact dropEndWhile_append hback _

/-- White space at the ends of a text is gone when it is trimmed. -/
theorem trim_append_blanks {front back : List Char} (hfront : ∀ c ∈ front, isBlank c = true)
    (hback : ∀ c ∈ back, isBlank c = true) (s : List Char) :
    trim (front ++ (s ++ back)) = trim s :=
  stripWhile_append hfront hback s

/-- Characters may be replaced before a text is trimmed or after it, if white space is kept. -/
theorem trim_map {f : Char → Char} (hf : ∀ c, isBlank (f c) = isBlank c) (s : List Char) :
    trim (s.map f) = (trim s).map f := by
  have hcomp : isBlank ∘ f = isBlank := funext hf
  rw [trim, trim, stripWhile, stripWhile, dropEndWhile, dropEndWhile, List.dropWhile_map, hcomp,
    ← List.map_reverse, List.dropWhile_map, hcomp, List.map_reverse]

/-- What is dropped at the end of a text are characters to drop. -/
theorem exists_dropEndWhile_append (p : Char → Bool) (s : List Char) :
    ∃ dropped, (∀ c ∈ dropped, p c = true) ∧ s = dropEndWhile p s ++ dropped := by
  refine ⟨(s.reverse.takeWhile p).reverse, ?_, ?_⟩
  · intro c hc
    exact List.mem_takeWhile_imp (List.mem_reverse.mp hc)
  · rw [dropEndWhile, ← List.reverse_append, List.takeWhile_append_dropWhile, List.reverse_reverse]

/-- A text is characters to strip, what is left of it when it is stripped, and characters to strip
again. -/
theorem exists_eq_append_stripWhile_append (p : Char → Bool) (s : List Char) :
    ∃ front back, (∀ c ∈ front, p c = true) ∧ (∀ c ∈ back, p c = true) ∧
      s = front ++ (stripWhile p s ++ back) := by
  obtain ⟨back, hback, hrest⟩ := exists_dropEndWhile_append p (s.dropWhile p)
  refine ⟨s.takeWhile p, back, fun c hc => List.mem_takeWhile_imp hc, hback, ?_⟩
  rw [stripWhile, ← hrest, List.takeWhile_append_dropWhile]

/-- A text is white space, what is left of it when it is trimmed, and white space again. -/
theorem exists_eq_append_trim_append (s : List Char) :
    ∃ front back, (∀ c ∈ front, isBlank c = true) ∧ (∀ c ∈ back, isBlank c = true) ∧
      s = front ++ (trim s ++ back) :=
  exists_eq_append_stripWhile_append isBlank s

theorem mem_of_mem_stripWhile {p : Char → Bool} {s : List Char} {c : Char}
    (h : c ∈ stripWhile p s) : c ∈ s := by
  obtain ⟨front, back, -, -, hs⟩ := exists_eq_append_stripWhile_append p s
  rw [hs]
  exact List.mem_append_right _ (List.mem_append_left _ h)

/-- Only characters to strip are lost. -/
theorem mem_stripWhile {p : Char → Bool} {s : List Char} {c : Char} (h : c ∈ s)
    (hc : p c = false) : c ∈ stripWhile p s := by
  obtain ⟨front, back, hfront, hback, hs⟩ := exists_eq_append_stripWhile_append p s
  rw [hs, List.mem_append, List.mem_append] at h
  rcases h with h | h | h
  · exact absurd (hfront c h) (by simp [hc])
  · exact h
  · exact absurd (hback c h) (by simp [hc])

theorem head?_dropWhile {p : Char → Bool} {s : List Char} :
    ∀ c ∈ (s.dropWhile p).head?, p c = false := by
  intro c hc
  have hnot := List.head?_dropWhile_not p s
  rw [Option.mem_def.mp hc] at hnot
  exact hnot

/-- A stripped text starts with no character to strip. -/
theorem head?_stripWhile {p : Char → Bool} {s : List Char} :
    ∀ c ∈ (stripWhile p s).head?, p c = false := by
  intro c hc
  cases hrest : s.dropWhile p with
  | nil =>
    rw [stripWhile, hrest] at hc
    cases hc
  | cons d rest =>
    have hd : p d = false := head?_dropWhile d (by rw [hrest]; rfl)
    -- The first character that is left keeps its place when the end is stripped.
    have hend := dropEndWhile_append_cons hd [] rest
    rw [List.nil_append, List.nil_append] at hend
    rw [stripWhile, hrest, hend] at hc
    cases hc
    exact hd

/-- A stripped text ends with no character to strip. -/
theorem getLast?_stripWhile {p : Char → Bool} {s : List Char} :
    ∀ c ∈ (stripWhile p s).getLast?, p c = false := by
  intro c hc
  rw [stripWhile, dropEndWhile, List.getLast?_reverse] at hc
  exact head?_dropWhile c hc

/-- Nothing is left of a text exactly if all of it is to be stripped. -/
theorem stripWhile_eq_nil_iff {p : Char → Bool} {s : List Char} :
    stripWhile p s = [] ↔ ∀ c ∈ s, p c = true := by
  constructor
  · intro h c hc
    by_contra hkept
    have hmem := mem_stripWhile hc (Bool.not_eq_true _ ▸ hkept)
    rw [h] at hmem
    cases hmem
  · intro h
    cases hs : stripWhile p s with
    | nil => rfl
    | cons c cs =>
      have hfirst : p c = false := head?_stripWhile c (by rw [hs]; rfl)
      have hmem : c ∈ stripWhile p s := hs ▸ List.mem_cons_self
      exact absurd (h c (mem_of_mem_stripWhile hmem)) (by simp [hfirst])

/-- Trimming a text takes white space off its front, once its end is trimmed. -/
theorem exists_blanks_append_trim (s : List Char) :
    ∃ blanks, (∀ c ∈ blanks, isBlank c = true) ∧ dropEndWhile isBlank s = blanks ++ trim s := by
  have hsplit : s = s.takeWhile isBlank ++ s.dropWhile isBlank :=
    List.takeWhile_append_dropWhile.symm
  have hblanks : ∀ c ∈ s.takeWhile isBlank, isBlank c = true :=
    fun c hc => List.mem_takeWhile_imp hc
  cases hrest : s.dropWhile isBlank with
  | nil =>
    -- A text of white space only is gone after its end is trimmed.
    rw [hrest, List.append_nil] at hsplit
    have hgone : dropEndWhile isBlank s = [] := by
      rw [dropEndWhile, List.reverse_eq_nil_iff, List.dropWhile_eq_nil_iff]
      intro c hc
      rw [List.mem_reverse, hsplit] at hc
      exact hblanks c hc
    have htrim : trim s = [] := by
      rw [trim, stripWhile, hrest]
      rfl
    exact ⟨[], by simp, by rw [hgone, htrim, List.append_nil]⟩
  | cons d rest =>
    have hd : isBlank d = false := head?_dropWhile d (by rw [hrest]; rfl)
    refine ⟨s.takeWhile isBlank, hblanks, ?_⟩
    rw [trim, stripWhile, hrest]
    have hend := dropEndWhile_append_cons hd [] rest
    rw [List.nil_append, List.nil_append] at hend
    rw [hend, ← dropEndWhile_append_cons hd, ← hrest, ← hsplit]

end JdkFinder.Text
