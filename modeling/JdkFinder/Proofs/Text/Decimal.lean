import JdkFinder.Text.Blank
import JdkFinder.Text.Digit
import Mathlib.Data.Nat.Digits.Defs
import Mathlib.Tactic.IntervalCases

/-!
# Decimal digits of numbers

What is written by `Text.decimal` is a run of ASCII digits, and it is read back as the number.
-/

namespace JdkFinder.Text

theorem bounds_of_isDigit {c : Char} (h : c.isDigit = true) : 48 ≤ c.toNat ∧ c.toNat ≤ 57 := by
  simp only [Char.isDigit, Bool.and_eq_true, decide_eq_true_eq] at h
  exact ⟨h.1, h.2⟩

theorem isDigit_of_ascii {c : Char} (h : c.isDigit = true) : isDigit c = true := by
  have hbounds := bounds_of_isDigit h
  have hascii : c.toNat < 0x80 := by omega
  rw [isDigit, if_pos hascii, h]

theorem isBlank_of_ascii_digit {c : Char} (h : c.isDigit = true) : isBlank c = false := by
  have hbounds := bounds_of_isDigit h
  simp only [isBlank, Bool.or_eq_false_iff, Bool.and_eq_false_iff, decide_eq_false_iff_not,
    beq_eq_false_iff_ne]
  omega

theorem ascii_of_mem_decimal {n : Nat} {c : Char} (h : c ∈ decimal n) : c.isDigit = true :=
  Nat.isDigit_of_mem_toDigits (by decide) (by decide) h

theorem isDigit_of_mem_decimal {n : Nat} {c : Char} (h : c ∈ decimal n) : isDigit c = true :=
  isDigit_of_ascii (ascii_of_mem_decimal h)

theorem decimal_ne_nil (n : Nat) : decimal n ≠ [] :=
  Nat.toDigits_ne_nil

/-- A written number starts with a digit. -/
theorem exists_decimal_eq_cons (n : Nat) :
    ∃ c cs, decimal n = c :: cs ∧ c.isDigit = true := by
  cases h : decimal n with
  | nil => exact absurd h (decimal_ne_nil n)
  | cons c cs => exact ⟨c, cs, rfl, ascii_of_mem_decimal (h ▸ List.mem_cons_self)⟩

/-- Only zero is written with a zero at its front. -/
theorem eq_zero_of_decimal {n : Nat} {cs : List Char} (h : decimal n = '0' :: cs) : n = 0 := by
  induction n using Nat.strongRecOn generalizing cs with
  | ind n ih =>
    rw [decimal] at h
    by_cases hsmall : n < 10
    · rw [Nat.toDigits_of_lt_base hsmall] at h
      have hdigit : Nat.digitChar n = '0' := (List.cons.inj h).1
      revert hdigit
      interval_cases n <;> decide
    · -- The digits of a tenth of the number stand in front.
      rw [Nat.toDigits_of_base_le (by decide) (by omega)] at h
      obtain ⟨c, ds, hds, -⟩ := exists_decimal_eq_cons (n / 10)
      rw [decimal] at hds
      rw [hds, List.cons_append] at h
      have hzero : n / 10 = 0 :=
        ih (n / 10) (by omega) (by rw [decimal, hds, (List.cons.inj h).1])
      omega

theorem digitsValue?_decimal (n : Nat) : digitsValue? (decimal n) = some n := by
  have hall : (decimal n).all Char.isDigit = true :=
    List.all_eq_true.mpr fun c hc => ascii_of_mem_decimal hc
  have hempty : (decimal n).isEmpty = false := by
    simp [decimal_ne_nil]
  rw [digitsValue?, hall, hempty, decimal, Nat.ofDigitChars_ten_toDigits]
  rfl

theorem numberBelow?_decimal {bound n : Nat} (h : n < bound) :
    numberBelow? bound (decimal n) = some n := by
  have hplus : '+' ∉ decimal n := by
    intro hmem
    have hdigit := ascii_of_mem_decimal hmem
    revert hdigit
    decide
  unfold numberBelow?
  -- No sign is written, so the digits are the whole text.
  split
  · rename_i rest hdecimal
    exact absurd (hdecimal ▸ List.mem_cons_self) hplus
  · simp [digitsValue?_decimal, h]

theorem digitsValue?_eq_some_iff {s : List Char} {n : Nat} :
    digitsValue? s = some n ↔
      s ≠ [] ∧ (∀ c ∈ s, c.isDigit = true) ∧ Nat.ofDigitChars 10 s 0 = n := by
  rw [digitsValue?, Option.ite_none_left_eq_some, Bool.not_eq_true, Bool.or_eq_false_iff,
    List.isEmpty_eq_false_iff, Bool.not_eq_false', List.all_eq_true, Option.some_inj, and_assoc]

/-- Without a sign at its front a text is a number if it is all digits and its value is small
enough. -/
theorem numberBelow?_eq_some_iff {bound n : Nat} {s : List Char} (hsign : ∀ c ∈ s.head?, c ≠ '+') :
    numberBelow? bound s = some n ↔ digitsValue? s = some n ∧ n < bound := by
  unfold numberBelow?
  split
  · exact absurd rfl (hsign '+' rfl)
  · rw [Option.filter_eq_some_iff, decide_eq_true_iff]

/-- A run of ASCII digits, with any zeros at its front, that writes a number of 32 bits. -/
structure IsNumeral (run : List Char) (n : UInt32) : Prop where
  ne_nil : run ≠ []
  ascii : ∀ c ∈ run, c.isDigit = true
  value : Nat.ofDigitChars 10 run 0 = n.toNat

theorem word32?_eq_some_iff {run : List Char} {n : UInt32} (hsign : ∀ c ∈ run.head?, c ≠ '+') :
    word32? run = some n ↔ IsNumeral run n := by
  rw [word32?, Option.map_eq_some_iff]
  simp only [numberBelow?_eq_some_iff hsign, digitsValue?_eq_some_iff]
  constructor
  · rintro ⟨value, ⟨⟨hne, hascii, hvalue⟩, hbound⟩, rfl⟩
    refine ⟨hne, hascii, ?_⟩
    rw [hvalue, UInt32.toNat_ofNat_of_lt' hbound]
  · rintro ⟨hne, hascii, hvalue⟩
    exact ⟨n.toNat, ⟨⟨hne, hascii, hvalue⟩, n.toNat_lt⟩, UInt32.ofNat_toNat⟩

theorem IsNumeral.word32?_eq {run : List Char} {n : UInt32} (h : IsNumeral run n) :
    word32? run = some n := by
  refine (word32?_eq_some_iff ?_).mpr h
  rintro c hc rfl
  have hplus : '+'.isDigit = true := h.ascii '+' (List.mem_of_mem_head? hc)
  exact absurd hplus (by decide)

/-- What is read as a number is one, behind a plus sign or not. -/
theorem exists_numeral_of_word32? {s : List Char} {n : UInt32} (h : word32? s = some n) :
    ∃ sign run, s = sign ++ run ∧ (sign = [] ∨ sign = ['+']) ∧ IsNumeral run n := by
  -- A sign is read and dropped; the rest is the numeral.
  by_cases hsign : s.head? = some '+'
  · obtain ⟨run, rfl⟩ := List.head?_eq_some_iff.mp hsign
    obtain ⟨value, hvalue, rfl⟩ := Option.map_eq_some_iff.mp h
    have hfilter : (digitsValue? run).filter (· < Nat.pow 2 32) = some value := hvalue
    obtain ⟨hdigits, hbound⟩ := Option.filter_eq_some_iff.mp hfilter
    obtain ⟨hne, hascii, hrun⟩ := digitsValue?_eq_some_iff.mp hdigits
    refine ⟨['+'], run, rfl, .inr rfl, hne, hascii, ?_⟩
    rw [hrun, UInt32.toNat_ofNat_of_lt' (of_decide_eq_true hbound)]
  · have hnot : ∀ c ∈ s.head?, c ≠ '+' := by
      rintro c hc rfl
      exact hsign hc
    exact ⟨[], s, rfl, .inl rfl, (word32?_eq_some_iff hnot).mp h⟩

theorem word32?_decimal (n : UInt32) : word32? (decimal n.toNat) = some n := by
  rw [word32?, numberBelow?_decimal n.toNat_lt]
  simp

end JdkFinder.Text
