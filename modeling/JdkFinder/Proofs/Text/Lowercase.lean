import JdkFinder.Proofs.Text.Decimal
import JdkFinder.Proofs.Text.Pieces
import JdkFinder.Text.Lowercase

/-!
# Texts in lower case

A text of ASCII characters without capital letters is its own lower-case form.  A hyphen and white
space keep what stands on their sides apart, so that the lower-case form can be found side by side.
-/

namespace JdkFinder.Text

/-! ## §1 Lower-case texts -/

/-- An ASCII character that is no capital letter. -/
def IsLowerAscii (c : Char) : Prop :=
  c.toNat < 0x80 ∧ c.toLower = c

instance (c : Char) : Decidable (IsLowerAscii c) :=
  inferInstanceAs (Decidable (_ ∧ _))

/-- A text of such characters stays as it is, whatever stands around it. -/
theorem lowercaseAfter_append (before : List Char) {s : List Char} (h : ∀ c ∈ s, IsLowerAscii c)
    (rest : List Char) :
    lowercaseAfter before (s ++ rest) = s ++ lowercaseAfter (s.reverse ++ before) rest := by
  induction s generalizing before with
  | nil => rfl
  | cons c s ih =>
    obtain ⟨hascii, hlower⟩ := h c List.mem_cons_self
    -- The sigma is no ASCII character.
    have hsigma : c ≠ 'Σ' := by
      rintro rfl
      revert hascii
      decide
    have hchar : lowercaseChar c = [c] := by
      rw [lowercaseChar, if_pos hascii, hlower]
    rw [List.cons_append, lowercaseAfter, if_neg hsigma, hchar,
      ih (c :: before) fun d hd => h d (List.mem_cons_of_mem c hd)]
    simp

theorem lowercase_eq_self {s : List Char} (h : ∀ c ∈ s, IsLowerAscii c) : lowercase s = s := by
  have happend := lowercaseAfter_append [] h []
  rwa [List.append_nil, lowercaseAfter, List.append_nil] at happend

theorem isLowerAscii_of_isDigit {c : Char} (h : c.isDigit = true) : IsLowerAscii c := by
  have hbounds := bounds_of_isDigit h
  have hcapital : ¬ (c.val ≥ 'A'.val ∧ c.val ≤ 'Z'.val) := by
    rintro ⟨hle, -⟩
    have hA : 65 ≤ c.toNat := hle
    omega
  have hsame : c.toLower = c := dif_neg hcapital
  exact ⟨by omega, hsame⟩

/-! ## §2 Texts side by side -/

/-- A character that does not change, and across which no end of a word is told. -/
structure KeepsApart (c : Char) : Prop where
  notSigma : c ≠ 'Σ'
  fixed : lowercaseChar c = [c]
  notIgnorable : inBlocks caseIgnorableBlocks c = false
  notCased : inBlocks casedBlocks c = false

instance (c : Char) : Decidable (KeepsApart c) :=
  decidable_of_iff (c ≠ 'Σ' ∧ lowercaseChar c = [c] ∧ inBlocks caseIgnorableBlocks c = false ∧
      inBlocks casedBlocks c = false)
    ⟨fun ⟨h₁, h₂, h₃, h₄⟩ => ⟨h₁, h₂, h₃, h₄⟩, fun ⟨h₁, h₂, h₃, h₄⟩ => ⟨h₁, h₂, h₃, h₄⟩⟩

theorem keepsApart_hyphen : KeepsApart '-' := by
  decide +kernel

theorem keepsApart_of_isBlank {c : Char} (h : isBlank c = true) : KeepsApart c := by
  have hall : ∀ n ∈ blankCodes, KeepsApart (Char.ofNat n) := by
    decide +kernel
  exact of_isBlank hall h

namespace KeepsApart

variable {c : Char}

/-- Whether a cased character comes before does not depend on what is further away than such a
character. -/
theorem meetsCased_append (h : KeepsApart c) (near far : List Char) :
    meetsCased (near ++ c :: far) = meetsCased near := by
  induction near with
  | nil => simp [meetsCased, h.notIgnorable, h.notCased]
  | cons d near ih =>
    by_cases hd : inBlocks caseIgnorableBlocks d = true
    · simpa [meetsCased, hd] using ih
    · simp [meetsCased, hd]

theorem lowercaseAfter_append (h : KeepsApart c) (near far s : List Char) :
    lowercaseAfter (near ++ c :: far) s = lowercaseAfter near s := by
  induction s generalizing near with
  | nil => rfl
  | cons d s ih =>
    have hrest := ih (d :: near)
    rw [List.cons_append] at hrest
    rw [lowercaseAfter, lowercaseAfter, hrest, endsWord, endsWord, h.meetsCased_append]

/-- Behind such a character a text is put into lower case by itself. -/
theorem lowercaseAfter_cons (h : KeepsApart c) (before s : List Char) :
    lowercaseAfter before (c :: s) = c :: lowercase s := by
  have hrest : lowercaseAfter (c :: before) s = lowercase s := h.lowercaseAfter_append [] before s
  rw [lowercaseAfter, if_neg h.notSigma, h.fixed, hrest, List.singleton_append]

theorem lowercaseAfter_append_cons (h : KeepsApart c) (before s t : List Char) :
    lowercaseAfter before (s ++ c :: t) = lowercaseAfter before s ++ c :: lowercase t := by
  induction s generalizing before with
  | nil => exact h.lowercaseAfter_cons before t
  | cons d s ih =>
    rw [List.cons_append, lowercaseAfter, lowercaseAfter, ih, endsWord, endsWord,
      h.meetsCased_append, List.append_assoc]

/-- The two sides of such a character are put into lower case each by itself. -/
theorem lowercase_append_cons (h : KeepsApart c) (s t : List Char) :
    lowercase (s ++ c :: t) = lowercase s ++ c :: lowercase t :=
  h.lowercaseAfter_append_cons [] s t

end KeepsApart

/-- A word in front of a hyphen stays as it is, and so does white space in front of a text. -/
theorem lowercase_append_hyphen {word : List Char} (h : ∀ c ∈ word, IsLowerAscii c)
    (s : List Char) : lowercase (word ++ '-' :: s) = word ++ '-' :: lowercase s := by
  rw [keepsApart_hyphen.lowercase_append_cons, lowercase_eq_self h]

theorem lowercase_blanks_append {blanks : List Char} (h : ∀ c ∈ blanks, isBlank c = true)
    (s : List Char) : lowercase (blanks ++ s) = blanks ++ lowercase s := by
  induction blanks with
  | nil => rfl
  | cons c blanks ih =>
    have hc := keepsApart_of_isBlank (h c List.mem_cons_self)
    have hrest := ih fun d hd => h d (List.mem_cons_of_mem c hd)
    rw [List.cons_append, lowercase, hc.lowercaseAfter_cons, hrest, List.cons_append]

/-! ## §3 Capital letters of ASCII -/

/-- The code points of the capital letters of ASCII. -/
def capitalCodes : List Nat :=
  List.range' 65 26

/-- What holds of the capital letters, and of all that are none, holds of all characters. -/
theorem of_toLower {p : Char → Prop} (hcapital : ∀ n ∈ capitalCodes, p (Char.ofNat n))
    (hother : ∀ c, c.toLower = c → p c) (c : Char) : p c := by
  by_cases hrange : c.val ≥ 'A'.val ∧ c.val ≤ 'Z'.val
  · have hcode : c.toNat ∈ capitalCodes := by
      have hA : 65 ≤ c.toNat := hrange.1
      have hZ : c.toNat ≤ 90 := hrange.2
      rw [capitalCodes, List.mem_range'_1]
      omega
    rw [← Char.ofNat_toNat c]
    exact hcapital c.toNat hcode
  · exact hother c (dif_neg hrange)

/-- A capital letter is like its small form to all that looks at it. -/
structure LikeSmall (c : Char) : Prop where
  sigma : c.toLower = 'Σ' ↔ c = 'Σ'
  lowercaseChar_eq : lowercaseChar c.toLower = lowercaseChar c
  ignorable : inBlocks caseIgnorableBlocks c.toLower = inBlocks caseIgnorableBlocks c
  cased : inBlocks casedBlocks c.toLower = inBlocks casedBlocks c

instance (c : Char) : Decidable (LikeSmall c) :=
  decidable_of_iff ((c.toLower = 'Σ' ↔ c = 'Σ') ∧ lowercaseChar c.toLower = lowercaseChar c ∧
      inBlocks caseIgnorableBlocks c.toLower = inBlocks caseIgnorableBlocks c ∧
      inBlocks casedBlocks c.toLower = inBlocks casedBlocks c)
    ⟨fun ⟨h₁, h₂, h₃, h₄⟩ => ⟨h₁, h₂, h₃, h₄⟩, fun ⟨h₁, h₂, h₃, h₄⟩ => ⟨h₁, h₂, h₃, h₄⟩⟩

theorem likeSmall (c : Char) : LikeSmall c := by
  refine of_toLower (by decide +kernel) (fun d hd => ?_) c
  exact ⟨by rw [hd], by rw [hd], by rw [hd], by rw [hd]⟩

theorem meetsCased_map_toLower (s : List Char) :
    meetsCased (s.map Char.toLower) = meetsCased s := by
  induction s with
  | nil => rfl
  | cons c s ih =>
    by_cases hc : inBlocks caseIgnorableBlocks c = true
    · simpa [meetsCased, (likeSmall c).ignorable, hc] using ih
    · simp [meetsCased, (likeSmall c).ignorable, hc, (likeSmall c).cased]

theorem lowercaseAfter_map_toLower (before s : List Char) :
    lowercaseAfter (before.map Char.toLower) (s.map Char.toLower) = lowercaseAfter before s := by
  induction s generalizing before with
  | nil => rfl
  | cons c s ih =>
    have hrest := ih (c :: before)
    rw [List.map_cons] at hrest
    rw [List.map_cons, lowercaseAfter, lowercaseAfter, hrest, endsWord, endsWord,
      meetsCased_map_toLower, meetsCased_map_toLower, (likeSmall c).lowercaseChar_eq]
    simp only [(likeSmall c).sigma]

/-- The lower-case form does not tell which ASCII letters of a text were capitals. -/
theorem lowercase_map_toLower (s : List Char) : lowercase (s.map Char.toLower) = lowercase s :=
  lowercaseAfter_map_toLower [] s

theorem isBlank_toLower (c : Char) : isBlank c.toLower = isBlank c := by
  refine of_toLower (p := fun c => isBlank c.toLower = isBlank c) (by decide) (fun d hd => ?_) c
  rw [hd]

end JdkFinder.Text
