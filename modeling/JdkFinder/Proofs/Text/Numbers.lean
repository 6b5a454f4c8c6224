import JdkFinder.Proofs.Text.Lowercase

/-!
# Numbers in lower case

Digits and the signs that numbers are written with have no case: they stay where they are when a
text is put into lower case, and no other character becomes one of them (`sameNumbers_lowercase`).
So a number that is found in the lower-case form stands in the text itself, with the same digits
around it (`SameNumbers.exists_append`).
-/

namespace JdkFinder.Text

/-! ## §1 Numeric characters -/

/-- First and last code point of each block of numeric characters: three signs, and the decimal
digits. -/
def numericBlocks : List (Nat × Nat) :=
  [(0x2B, 0x2B), (0x2E, 0x2E), (0x5F, 0x5F)] ++ digitBlocks

/-- A plus sign, a dot, an underscore, or a decimal digit of any script. -/
def isNumeric (c : Char) : Bool :=
  inBlocks numericBlocks c

/-- Whether no numeric character stands between two code points. -/
def isClear (first last : Nat) : Bool :=
  numericBlocks.all fun (lo, hi) => last < lo || hi < first

theorem isNumeric_of_isDigit {c : Char} (h : isDigit c = true) : isNumeric c = true := by
  have hblocks : inBlocks digitBlocks c = true := by
    rw [isDigit] at h
    split at h
    · obtain ⟨hlo, hhi⟩ := bounds_of_isDigit h
      exact List.any_eq_true.mpr ⟨(0x30, 0x39), by decide, by simp [hlo, hhi]⟩
    · exact h
  rw [isNumeric, inBlocks, numericBlocks, List.any_append, Bool.or_eq_true]
  exact .inr hblocks

theorem isNumeric_of_isClear {first last : Nat} (h : isClear first last = true) {c : Char}
    (hfirst : first ≤ c.toNat) (hlast : c.toNat ≤ last) : isNumeric c = false := by
  rw [isNumeric, inBlocks, List.any_eq_false]
  intro block hblock
  have hapart := List.all_eq_true.mp h block hblock
  simp only [Bool.or_eq_true, decide_eq_true_iff] at hapart
  simp only [Bool.and_eq_true, decide_eq_true_iff]
  omega

/-! ## §2 Single characters -/

theorem isClear_lowercaseRuns {run : Nat × Nat × Nat × Int} (h : run ∈ lowercaseRuns) :
    isClear run.1 run.2.1 = true ∧
      isClear (run.1 + run.2.2.2).toNat (run.2.1 + run.2.2.2).toNat = true := by
  have hsource : lowercaseRuns.all (fun run => isClear run.1 run.2.1) = true := by
    decide +kernel
  have himage : lowercaseRuns.all (fun run =>
      isClear (run.1 + run.2.2.2).toNat (run.2.1 + run.2.2.2).toNat) = true := by
    decide +kernel
  exact ⟨List.all_eq_true.mp hsource run h, List.all_eq_true.mp himage run h⟩

theorem exists_run_of_shiftedIn? {n m : Nat} {runs : List (Nat × Nat × Nat × Int)}
    (h : shiftedIn? n runs = some m) :
    ∃ run ∈ runs, run.1 ≤ n ∧ n ≤ run.2.1 ∧ m = (n + run.2.2.2).toNat := by
  -- On the runs, of which the first one that holds the number is taken.
  induction runs with
  | nil => cases h
  | cons run runs ih =>
    obtain ⟨first, last, step, shift⟩ := run
    rw [shiftedIn?] at h
    split at h
    · rename_i hrun
      cases h
      simp only [Bool.and_eq_true, decide_eq_true_iff] at hrun
      exact ⟨_, List.mem_cons_self, hrun.1.1, hrun.1.2, rfl⟩
    · obtain ⟨run, hrun, hbounds⟩ := ih h
      exact ⟨run, List.mem_cons_of_mem _ hrun, hbounds⟩

/-- Where the case of a character changes, it is not numeric, before and after. -/
theorem isNumeric_of_shiftedIn? {c : Char} {m : Nat}
    (h : shiftedIn? c.toNat lowercaseRuns = some m) :
    isNumeric c = false ∧ isNumeric (Char.ofNat m) = false := by
  obtain ⟨run, hrun, hfirst, hlast, rfl⟩ := exists_run_of_shiftedIn? h
  obtain ⟨hsource, himage⟩ := isClear_lowercaseRuns hrun
  refine ⟨isNumeric_of_isClear hsource hfirst hlast, ?_⟩
  by_cases hvalid : ((c.toNat + run.2.2.2).toNat).isValidChar
  · have hcode : (Char.ofNat (c.toNat + run.2.2.2).toNat).toNat = (c.toNat + run.2.2.2).toNat := by
      rw [Char.ofNat, dif_pos hvalid]
      rfl
    apply isNumeric_of_isClear himage
    · omega
    · omega
  · -- There is no such character, and its place is taken by the one with code point 0.
    rw [Char.ofNat, dif_neg hvalid]
    decide

theorem isNumeric_toLower (c : Char) : isNumeric c.toLower = isNumeric c := by
  refine of_toLower (p := fun c => isNumeric c.toLower = isNumeric c) (by decide +kernel)
    (fun d hd => ?_) c
  rw [hd]

theorem lowercaseChar_of_isNumeric {c : Char} (h : isNumeric c = true) : lowercaseChar c = [c] := by
  -- Lowering an ASCII letter: the letters it changes are the 26 capitals, none of them numeric.
  have hcapital : c.toLower = c := by
    have hall : ∀ n ∈ capitalCodes, isNumeric (Char.ofNat n) = false := by decide +kernel
    refine of_toLower (p := fun c => isNumeric c = true → c.toLower = c) (fun n hn hnumeric => ?_)
      (fun d hd _ => hd) c h
    rw [hall n hn] at hnumeric
    cases hnumeric
  unfold lowercaseChar
  split
  · rw [hcapital]
  · split
    · rename_i hdotted
      have hnot : isNumeric (Char.ofNat 0x130) = false := by decide +kernel
      rw [← hdotted, Char.ofNat_toNat, h] at hnot
      cases hnot
    · cases hshift : shiftedIn? c.toNat lowercaseRuns with
      | none =>
        -- A character outside every run is mapped to itself.
        rw [Option.getD_none, Char.ofNat_toNat]
      | some m =>
        rw [(isNumeric_of_shiftedIn? hshift).1] at h
        cases h

theorem lowercaseChar_ne_nil (c : Char) : lowercaseChar c ≠ [] := by
  unfold lowercaseChar
  split
  · simp
  · split
    · simp
    · simp

theorem isNumeric_of_mem_lowercaseChar {c d : Char} (h : isNumeric c = false)
    (hd : d ∈ lowercaseChar c) : isNumeric d = false := by
  unfold lowercaseChar at hd
  split at hd
  · rw [List.mem_singleton.mp hd, isNumeric_toLower, h]
  · split at hd
    · have hdotted : ∀ d ∈ ['i', Char.ofNat 0x307], isNumeric d = false :=
        forall_of_all (by decide +kernel)
      exact hdotted d hd
    · rw [List.mem_singleton.mp hd]
      cases hshift : shiftedIn? c.toNat lowercaseRuns with
      | none => rwa [Option.getD_none, Char.ofNat_toNat]
      | some m => exact (isNumeric_of_shiftedIn? hshift).2

/-! ## §3 Texts -/

/-- The texts have the same numeric characters, and each other character of the first is replaced by
others in the second. -/
inductive SameNumbers : List Char → List Char → Prop
  | nil : SameNumbers [] []
  | numeric {c : Char} {s t : List Char} (hc : isNumeric c = true) (h : SameNumbers s t) :
      SameNumbers (c :: s) (c :: t)
  | other {c : Char} {others s t : List Char} (hc : isNumeric c = false) (hne : others ≠ [])
      (hothers : ∀ d ∈ others, isNumeric d = false) (h : SameNumbers s t) :
      SameNumbers (c :: s) (others ++ t)

theorem sameNumbers_lowercaseAfter (before s : List Char) :
    SameNumbers s (lowercaseAfter before s) := by
  induction s generalizing before with
  | nil => exact .nil
  | cons c s ih =>
    rw [lowercaseAfter]
    split
    · -- A final sigma and any other one are both letters, and so is what they become.
      rename_i hsigma
      refine .other (hsigma ▸ by decide +kernel) (List.cons_ne_nil _ _) ?_ (ih _)
      split
      · exact forall_of_all (by decide +kernel)
      · exact forall_of_all (by decide +kernel)
    · cases hc : isNumeric c with
      | true =>
        rw [lowercaseChar_of_isNumeric hc]
        exact .numeric hc (ih _)
      | false =>
        exact .other hc (lowercaseChar_ne_nil c) (fun d hd => isNumeric_of_mem_lowercaseChar hc hd)
          (ih _)

theorem sameNumbers_lowercase (s : List Char) : SameNumbers s (lowercase s) :=
  sameNumbers_lowercaseAfter [] s

namespace SameNumbers

variable {s t : List Char}

theorem mem (h : SameNumbers s t) {c : Char} (hc : c ∈ s) (hnumeric : isNumeric c = true) :
    c ∈ t := by
  induction h with
  | nil => cases hc
  | numeric _ _ ih =>
    rcases List.mem_cons.mp hc with rfl | hc
    · exact List.mem_cons_self
    · exact List.mem_cons_of_mem _ (ih hc)
  | other hother _ _ _ ih =>
    rcases List.mem_cons.mp hc with rfl | hc
    · rw [hnumeric] at hother
      cases hother
    · exact List.mem_append_right _ (ih hc)

/-- A text without digits had none before. -/
theorem noDigit (h : SameNumbers s t) (ht : ∀ c ∈ t, isDigit c = false) :
    ∀ c ∈ s, isDigit c = false := by
  intro c hc
  rw [Bool.eq_false_iff]
  intro hdigit
  have hmem := h.mem hc (isNumeric_of_isDigit hdigit)
  rw [ht c hmem] at hdigit
  cases hdigit

/-- Each numeric character stands in both texts, with the same numbers on its sides. -/
theorem exists_append_cons {front back : List Char} {c : Char}
    (h : SameNumbers s (front ++ c :: back)) (hc : isNumeric c = true) :
    ∃ front' back', s = front' ++ c :: back' ∧ SameNumbers front' front ∧
      SameNumbers back' back := by
  generalize htext : front ++ c :: back = text at h
  induction h generalizing front with
  | nil => simp at htext
  | numeric hd hmore ih =>
    cases front with
    | nil =>
      obtain ⟨rfl, rfl⟩ := List.cons.inj htext
      exact ⟨[], _, rfl, .nil, hmore⟩
    | cons d front =>
      obtain ⟨rfl, hrest⟩ := List.cons.inj htext
      obtain ⟨front', back', rfl, hfront, hback⟩ := ih hrest
      exact ⟨_ :: front', back', rfl, .numeric hd hfront, hback⟩
  | @other d others s t hd hne hothers hmore ih =>
    rcases List.append_eq_append_iff.mp htext with ⟨more, rfl, hrest⟩ | ⟨more, rfl, hrest⟩
    · cases more with
      | nil =>
        have htail : [] ++ c :: back = t := hrest
        obtain ⟨front', back', rfl, hfront, hback⟩ := ih htail
        rw [List.append_nil] at hne hothers
        have hfront' := SameNumbers.other hd hne hothers hfront
        rw [List.append_nil] at hfront'
        exact ⟨d :: front', back', rfl, hfront', hback⟩
      | cons e more =>
        -- The character would be among those that are not numeric.
        obtain ⟨rfl, -⟩ := List.cons.inj hrest
        rw [hothers c (by simp)] at hc
        cases hc
    · obtain ⟨front', back', rfl, hfront, hback⟩ := ih hrest.symm
      exact ⟨d :: front', back', rfl, .other hd hne hothers hfront, hback⟩

theorem exists_append_of_numeric {number back : List Char} (h : SameNumbers s (number ++ back))
    (hnumber : ∀ c ∈ number, isNumeric c = true) :
    ∃ back', s = number ++ back' ∧ SameNumbers back' back := by
  induction number generalizing s with
  | nil => exact ⟨s, rfl, h⟩
  | cons c number ih =>
    obtain ⟨hc, hnumber⟩ := List.forall_mem_cons.mp hnumber
    -- A numeric character comes from the same one in the text, and what comes from any other is not
    -- numeric.
    generalize htext : (c :: number) ++ back = text at h
    cases h with
    | nil => cases htext
    | numeric _ hmore =>
      obtain ⟨rfl, rfl⟩ := List.cons.inj htext
      obtain ⟨back', rfl, hback⟩ := ih hmore hnumber
      exact ⟨back', rfl, hback⟩
    | other _ hne hothers _ =>
      obtain ⟨d, others, rfl⟩ := List.exists_cons_of_ne_nil hne
      obtain ⟨rfl, -⟩ := List.cons.inj htext
      rw [hothers c List.mem_cons_self] at hc
      cases hc

/-- What is written with numeric characters only is the same in both texts. -/
theorem exists_append {front number back : List Char}
    (h : SameNumbers s (front ++ (number ++ back))) (hne : number ≠ [])
    (hnumber : ∀ c ∈ number, isNumeric c = true) :
    ∃ front' back', s = front' ++ (number ++ back') ∧ SameNumbers front' front ∧
      SameNumbers back' back := by
  obtain ⟨c, number, rfl⟩ := List.exists_cons_of_ne_nil hne
  obtain ⟨hc, hnumber⟩ := List.forall_mem_cons.mp hnumber
  obtain ⟨front', rest, rfl, hfront, hrest⟩ := h.exists_append_cons hc
  obtain ⟨back', rfl, hback⟩ := hrest.exists_append_of_numeric hnumber
  exact ⟨front', back', rfl, hfront, hback⟩

end SameNumbers

end JdkFinder.Text
