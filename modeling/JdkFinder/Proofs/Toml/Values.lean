import JdkFinder.Proofs.Text.Decimal
import JdkFinder.Proofs.Text.Pieces
import JdkFinder.Proofs.Toml.Strings
import JdkFinder.Toml.Reader

/-!
# Written values are read back

Strings, truth values, natural numbers and arrays of strings, as they are written, are read off the
front of a text.  Numbers are the hard case: nothing of them may be taken for a date, for a number
in another base or for a float.
-/

namespace JdkFinder.Toml

open Text (decimal)

/-! ## §1 Blanks -/

/-- A character at which reading goes on: neither white space nor the start of a comment. -/
def isSolid (c : Char) : Bool :=
  !isSpace c && c != '\n' && c != '\r' && c != '#'

theorem skipTrivia_solid {c : Char} (h : isSolid c = true) (s : List Char) :
    skipTrivia false (c :: s) = c :: s := by
  simp only [isSolid, Bool.and_eq_true, Bool.not_eq_true', bne_iff_ne] at h
  obtain ⟨⟨⟨hspace, hnewline⟩, hreturn⟩, hhash⟩ := h
  simp [skipTrivia, hspace, hnewline, hreturn, hhash]

theorem skipTrivia_newline (s : List Char) : skipTrivia false ('\n' :: s) = skipTrivia false s := by
  simp [skipTrivia]

theorem skipTrivia_space (s : List Char) : skipTrivia false (' ' :: s) = skipTrivia false s := by
  simp [skipTrivia, isSpace]

theorem skipSpace_solid {c : Char} (h : isSolid c = true) (s : List Char) :
    skipSpace (c :: s) = c :: s := by
  simp only [isSolid, Bool.and_eq_true, Bool.not_eq_true'] at h
  simp [skipSpace, h.1.1.1]

/-! ## §2 Strings and truth values -/

theorem exists_writeString_eq_cons (s : List Char) :
    ∃ quote rest, writeString s = quote :: rest ∧ (quote = '"' ∨ quote = '\'') := by
  have hbasic : ∃ rest, basicString s = '"' :: rest := ⟨_, rfl⟩
  have hliteral : ∃ rest, literalString s = '\'' :: rest := ⟨_, rfl⟩
  have hmulti : ∃ rest, multiBasicString s = '"' :: rest := ⟨_, rfl⟩
  have hmultiLiteral : ∃ rest, multiLiteralString s = '\'' :: rest := ⟨_, rfl⟩
  unfold writeString
  repeat' split
  all_goals first
    | exact ⟨_, _, hbasic.choose_spec, .inl rfl⟩
    | exact ⟨_, _, hmulti.choose_spec, .inl rfl⟩
    | exact ⟨_, _, hliteral.choose_spec, .inr rfl⟩
    | exact ⟨_, _, hmultiLiteral.choose_spec, .inr rfl⟩

/-- A value that starts with neither bracket nor brace holds no other values. -/
theorem value?_of_scalar {c : Char} (hbracket : c ≠ '[') (hbrace : c ≠ '\x7b') (depth : Nat)
    (s : List Char) : value? depth (c :: s) = scalarValue? (c :: s) := by
  cases depth <;> simp [value?, hbracket, hbrace]

theorem value?_writeString (depth : Nat) (s : List Char) {rest : List Char}
    (hrest : EndsString rest) :
    value? depth (writeString s ++ rest) = some (.string (String.ofList s), rest) := by
  have hread := string?_writeString s hrest
  obtain ⟨quote, text, htext, hquote⟩ := exists_writeString_eq_cons s
  rw [htext, List.cons_append] at hread ⊢
  rw [value?_of_scalar (by rintro rfl; simp at hquote) (by rintro rfl; simp at hquote)]
  simp only [scalarValue?, hquote, ↓reduceIte, hread, Option.map_some]

theorem value?_writeBoolean (depth : Nat) (b : Bool) (rest : List Char) :
    value? depth (writeBoolean b ++ rest) = some (.boolean b, rest) := by
  cases b with
  | true =>
    have hread : boolean? ("true".toList ++ rest) = some (.boolean true, rest) := by
      rw [boolean?, Text.stripPrefix?_append, Option.map_some, Option.some_or]
    have hscalar : scalarValue? ('t' :: ("rue".toList ++ rest)) =
        boolean? ("true".toList ++ rest) :=
      rfl
    exact (value?_of_scalar (by decide) (by decide) depth _).trans (hscalar.trans hread)
  | false =>
    have hread : boolean? ("false".toList ++ rest) = some (.boolean false, rest) := by
      have htrue : Text.stripPrefix? "true".toList ("false".toList ++ rest) = none := rfl
      rw [boolean?, htrue, Text.stripPrefix?_append, Option.map_none, Option.map_some,
        Option.none_or]
    have hscalar :
        scalarValue? ('f' :: ("alse".toList ++ rest)) = boolean? ("false".toList ++ rest) := rfl
    exact (value?_of_scalar (by decide) (by decide) depth _).trans (hscalar.trans hread)

/-! ## §3 Natural numbers -/

section Digits

variable {digits rest : List Char}

/-- A run of digits ends at the end of its line. -/
theorem digitRun?_line (hdigits : ∀ c ∈ digits, c.isDigit = true) :
    digitRun? Char.isDigit false (digits ++ '\n' :: rest) = some (digits, '\n' :: rest) := by
  induction digits with
  | nil => rfl
  | cons c cs ih =>
    have hc : c.isDigit = true := hdigits c List.mem_cons_self
    have hcs := ih fun d hd => hdigits d (List.mem_cons_of_mem c hd)
    simp only [List.cons_append, digitRun?, hc, ↓reduceIte, hcs, push]

/-- After a number of fixed width inside a run of digits stands another digit, or the line ends. -/
theorem expect?_after_fixed? (hdigits : ∀ c ∈ digits, c.isDigit = true) {width m : Nat}
    {after : List Char} (h : fixed? width (digits ++ '\n' :: rest) = some (m, after)) {c : Char}
    (hc : c.isDigit = false) (hline : c ≠ '\n') : expect? c after = none := by
  unfold fixed? at h
  simp only [Option.ite_none_right_eq_some, Option.some.injEq, Prod.mk.injEq] at h
  obtain ⟨⟨-, htaken⟩, -, rfl⟩ := h
  have hwidth : width ≤ digits.length := by
    by_contra hlong
    -- A longer number would hold the end of the line.
    have hmem : '\n' ∈ (digits ++ '\n' :: rest).take width := by
      rw [List.take_append, List.mem_append]
      refine .inr ?_
      obtain ⟨k, hk⟩ : ∃ k, width - digits.length = k + 1 := ⟨width - digits.length - 1, by omega⟩
      rw [hk, List.take_succ_cons]
      exact List.mem_cons_self
    exact absurd (List.all_eq_true.mp htaken _ hmem) (by decide)
  apply Text.stripPrefix?_eq_none
  rw [List.drop_append_of_le_length hwidth]
  intro d hd
  cases hdrop : digits.drop width with
  | nil =>
    rw [hdrop] at hd
    obtain rfl : '\n' = d := by simpa using hd
    exact hline.symm
  | cons b bs =>
    rw [hdrop] at hd
    obtain rfl : b = d := by simpa using hd
    have hb : b.isDigit = true :=
      hdigits b (List.mem_of_mem_drop (hdrop ▸ List.mem_cons_self))
    rintro rfl
    rw [hb] at hc
    cases hc

theorem date?_digits (hdigits : ∀ c ∈ digits, c.isDigit = true) :
    date? (digits ++ '\n' :: rest) = none := by
  unfold date?
  cases hyear : fixed? 4 (digits ++ '\n' :: rest) with
  | none => rfl
  | some year =>
    have hdash : expect? '-' year.2 = none :=
      expect?_after_fixed? hdigits hyear (by decide) (by decide)
    simp only [Option.bind_eq_bind, Option.bind_some, hdash, Option.bind_none]

theorem time?_digits (hdigits : ∀ c ∈ digits, c.isDigit = true) :
    time? (digits ++ '\n' :: rest) = none := by
  unfold time?
  cases hhour : twoDigits? 0 23 (digits ++ '\n' :: rest) with
  | none => rfl
  | some hour =>
    have hfixed : fixed? 2 (digits ++ '\n' :: rest) = some hour :=
      (Option.filter_eq_some_iff.mp hhour).1
    have hcolon : expect? ':' hour.2 = none :=
      expect?_after_fixed? hdigits hfixed (by decide) (by decide)
    simp only [Option.bind_eq_bind, Option.bind_some, hcolon, Option.bind_none]

end Digits

theorem takeSign_digit {c : Char} (hc : c.isDigit = true) (s : List Char) :
    takeSign (c :: s) = (false, c :: s) := by
  unfold takeSign
  split
  · rename_i h
    exact absurd hc (by rw [(List.cons.inj h).1]; decide)
  · rename_i h
    exact absurd hc (by rw [(List.cons.inj h).1]; decide)
  · rfl

/-- A number written in decimal is read up to the end of its line. -/
theorem decimalDigits?_decimal (n : Nat) (rest : List Char) :
    decimalDigits? (decimal n ++ '\n' :: rest) = some (decimal n, '\n' :: rest) := by
  obtain ⟨c, cs, hdecimal, hc⟩ := Text.exists_decimal_eq_cons n
  -- A number that starts with a zero is zero itself.
  by_cases hzero : c = '0'
  · subst hzero
    rw [Text.eq_zero_of_decimal hdecimal]
    rfl
  · have hrun : digitRun? Char.isDigit false (cs ++ '\n' :: rest) = some (cs, '\n' :: rest) :=
      digitRun?_line fun d hd => Text.ascii_of_mem_decimal (hdecimal ▸ List.mem_cons_of_mem c hd)
    rw [hdecimal, List.cons_append]
    unfold decimalDigits?
    split
    · rename_i h
      exact absurd (List.cons.inj h).1 hzero
    · simp only [digitRun?, hc, ↓reduceIte, hrun, push]

theorem integer64?_of_lt {n : Nat} (hn : n < 2 ^ 63) : integer64? n = some (.integer n) := by
  have hpow : Int.pow 2 63 = 9223372036854775808 := by decide
  rw [integer64?, hpow, if_pos ⟨by omega, by omega⟩]

theorem number?_decimal {n : Nat} (hn : n < 2 ^ 63) (rest : List Char) :
    number? (decimal n ++ '\n' :: rest) = some (.integer n, '\n' :: rest) := by
  obtain ⟨c, cs, hdecimal, hc⟩ := Text.exists_decimal_eq_cons n
  have hwhole : decimalDigits? (c :: (cs ++ '\n' :: rest)) = some (decimal n, '\n' :: rest) := by
    rw [← List.cons_append, ← hdecimal]
    exact decimalDigits?_decimal n rest
  have hinteger : integer64? n = some (.integer n) := integer64?_of_lt hn
  have hnumber : decimalNumber? (c :: (cs ++ '\n' :: rest)) = some (.integer n, '\n' :: rest) := by
    have hvalue : Nat.ofDigitChars 10 (decimal n) 0 = n := Nat.ofDigitChars_ten_toDigits
    unfold decimalNumber?
    rw [takeSign_digit hc]
    dsimp only
    rw [hwhole, Option.bind_eq_bind, Option.bind_some]
    dsimp only
    -- Neither a fraction nor a power of ten follows.
    split
    · rename_i h
      exact absurd (List.cons.inj h).1 (by decide)
    · rename_i b more _ h
      obtain ⟨rfl, -⟩ := List.cons.inj h
      rw [if_neg (by decide), if_neg (by decide), hvalue, hinteger, Option.map_some]
    · rename_i h
      cases h
  have hspecial : specialFloat? (c :: (cs ++ '\n' :: rest)) = none := by
    have hfirst (b : Char) (hb : b.isDigit = false) (bs : List Char) :
        Text.stripPrefix? (b :: bs) (c :: (cs ++ '\n' :: rest)) = none := by
      apply Text.stripPrefix?_eq_none
      rintro d hd rfl
      obtain rfl : c = d := by simpa using hd
      rw [hc] at hb
      cases hb
    have hinf : "inf".toList = ['i', 'n', 'f'] := rfl
    have hnan : "nan".toList = ['n', 'a', 'n'] := rfl
    rw [specialFloat?, takeSign_digit hc, hinf, hnan]
    simp only [hfirst 'i' (by decide), hfirst 'n' (by decide), Option.or_none, Option.map_none]
  have hsecond (b : Char) (hb : b.isDigit = false) (hline : b ≠ '\n') (more : List Char) :
      cs ++ '\n' :: rest ≠ b :: more := by
    intro h
    cases cs with
    | nil => exact hline (List.cons.inj h).1.symm
    | cons d ds =>
      have hd : d.isDigit = true := Text.ascii_of_mem_decimal (n := n) (by simp [hdecimal])
      rw [(List.cons.inj h).1, hb] at hd
      cases hd
  rw [hdecimal, List.cons_append]
  unfold number?
  -- The second character is a digit or ends the line, so no other base is given.
  split
  · rename_i h
    exact absurd (List.cons.inj h).2 (hsecond _ (by decide) (by decide) _)
  · rename_i h
    exact absurd (List.cons.inj h).2 (hsecond _ (by decide) (by decide) _)
  · rename_i h
    exact absurd (List.cons.inj h).2 (hsecond _ (by decide) (by decide) _)
  rw [hspecial, Option.none_or, hnumber]

theorem value?_decimal (depth : Nat) {n : Nat} (hn : n < 2 ^ 63) (rest : List Char) :
    value? depth (decimal n ++ '\n' :: rest) = some (.integer n, '\n' :: rest) := by
  have hnumber := number?_decimal hn rest
  have hdigits : ∀ c ∈ decimal n, c.isDigit = true := fun c => Text.ascii_of_mem_decimal
  have hdate : dateTime? (decimal n ++ '\n' :: rest) = none := by
    rw [dateTime?, date?_digits hdigits, time?_digits hdigits]
    rfl
  obtain ⟨c, cs, hdecimal, hc⟩ := Text.exists_decimal_eq_cons n
  rw [hdecimal, List.cons_append] at hnumber hdate ⊢
  have hne (b : Char) (hb : b.isDigit = false) : c ≠ b := by
    rintro rfl
    rw [hc] at hb
    cases hb
  rw [value?_of_scalar (hne _ (by decide)) (hne _ (by decide)), scalarValue?,
    if_neg (by simp [hne '"' (by decide), hne '\'' (by decide)]),
    if_neg (by simp [hne 't' (by decide), hne 'f' (by decide)]), hdate, hnumber]
  rfl

/-! ## §4 Arrays of strings -/

section Arrays

variable {value : List Char → Option (Value × List Char)} {fuel : Nat} {v : Value}
  {s rest : List Char}

theorem arrayRest?_close : arrayRest? value (fuel + 1) (']' :: rest) = some ([], rest) := by
  have hclose : skipTrivia false (']' :: rest) = ']' :: rest := skipTrivia_solid (by decide) rest
  simp only [arrayRest?, hclose]

/-- A value and the comma after it. -/
theorem arrayRest?_comma {c : Char} (hc : isSolid c = true) (hopen : c ≠ ']')
    (hvalue : value (c :: s) = some (v, ',' :: rest)) :
    arrayRest? value (fuel + 1) (c :: s) =
      (arrayRest? value fuel rest).map fun (vs, rest) => (v :: vs, rest) := by
  have hcomma : skipTrivia false (',' :: rest) = ',' :: rest := skipTrivia_solid (by decide) rest
  rw [arrayRest?, skipTrivia_solid hc]
  split
  · rename_i h
    exact absurd (List.cons.inj h).1 hopen
  · simp only [hvalue, Option.bind_eq_bind, Option.bind_some, hcomma]
    cases arrayRest? value fuel rest <;> rfl

/-- A value before the end of the array. -/
theorem arrayRest?_last {c : Char} (hc : isSolid c = true) (hopen : c ≠ ']')
    (hvalue : value (c :: s) = some (v, ']' :: rest)) :
    arrayRest? value (fuel + 1) (c :: s) = some ([v], rest) := by
  have hclose : skipTrivia false (']' :: rest) = ']' :: rest := skipTrivia_solid (by decide) rest
  rw [arrayRest?, skipTrivia_solid hc]
  split
  · rename_i h
    exact absurd (List.cons.inj h).1 hopen
  · simp only [hvalue, Option.bind_eq_bind, Option.bind_some, hclose]

/-- Blanks before a value do not count. -/
theorem arrayRest?_congr {t : List Char} (h : skipTrivia false s = skipTrivia false t) :
    arrayRest? value fuel s = arrayRest? value fuel t := by
  cases fuel with
  | zero => rfl
  | succ fuel => rw [arrayRest?, arrayRest?, h]

end Arrays

/-- The line of an item. -/
theorem arrayRest?_item (depth fuel : Nat) (s rest : List Char) :
    arrayRest? (value? depth) (fuel + 1)
        ('\n' :: ("    ".toList ++ writeString s ++ [',', '\n']) ++ rest) =
      (arrayRest? (value? depth) fuel ('\n' :: rest)).map fun (vs, rest) =>
        (.string (String.ofList s) :: vs, rest) := by
  obtain ⟨quote, text, htext, hquote⟩ := exists_writeString_eq_cons s
  have hends : EndsString (',' :: '\n' :: rest) := by simp [EndsString]
  have hvalue := value?_writeString depth s hends
  rw [htext, List.cons_append] at hvalue
  -- The text of a string starts with a quote, which neither is blank nor closes the array.
  have hsolid : isSolid quote = true := by
    rcases hquote with rfl | rfl <;> decide
  have hopen : quote ≠ ']' := by
    rcases hquote with rfl | rfl <;> decide
  have hblank : skipTrivia false ('\n' :: ("    ".toList ++ writeString s ++ [',', '\n']) ++ rest) =
      skipTrivia false (quote :: (text ++ ',' :: '\n' :: rest)) := by
    rw [htext]
    simp [skipTrivia_newline, skipTrivia_space]
  rw [arrayRest?_congr hblank, arrayRest?_comma hsolid hopen hvalue]

theorem length_le_flatMap {α β : Type} (f : α → List β) (hf : ∀ a, f a ≠ []) (items : List α) :
    items.length ≤ (items.flatMap f).length := by
  induction items with
  | nil => exact Nat.le_refl 0
  | cons a items ih =>
    have ha : 0 < (f a).length := List.length_pos_iff.mpr (hf a)
    simp only [List.flatMap_cons, List.length_append, List.length_cons]
    omega

theorem arrayRest?_items (depth fuel : Nat) (items : List (List Char)) (rest : List Char)
    (hfuel : items.length < fuel) :
    arrayRest? (value? depth) fuel
        ('\n' :: (items.flatMap fun s => "    ".toList ++ writeString s ++ [',', '\n']) ++
          ']' :: rest) =
      some (items.map fun s => .string (String.ofList s), rest) := by
  -- On the items, each of which takes one unit of the fuel; one more is left for the bracket.
  induction items generalizing fuel with
  | nil =>
    obtain ⟨fuel, rfl⟩ : ∃ k, fuel = k + 1 := ⟨fuel - 1, by simp at hfuel; omega⟩
    exact (arrayRest?_congr (skipTrivia_newline _)).trans arrayRest?_close
  | cons s items ih =>
    obtain ⟨fuel, rfl⟩ : ∃ k, fuel = k + 1 := ⟨fuel - 1, by simp at hfuel; omega⟩
    have hitems := ih fuel (by simpa using hfuel)
    have hitem := arrayRest?_item depth fuel s
      ((items.flatMap fun s => "    ".toList ++ writeString s ++ [',', '\n']) ++ ']' :: rest)
    rw [List.flatMap_cons, List.map_cons]
    rw [List.cons_append] at hitems
    simp only [List.cons_append, List.append_assoc] at hitem hitems ⊢
    rw [hitem, hitems]
    rfl

theorem value?_writeStrings (depth : Nat) (items : List (List Char)) (rest : List Char) :
    value? (depth + 1) (writeStrings items ++ rest) =
      some (.array (items.map fun s => .string (String.ofList s)), rest) := by
  have harray (text : List Char) : value? (depth + 1) ('[' :: text) =
      (arrayRest? (value? depth) (text.length + 1) text).map fun (vs, rest) =>
        (.array vs, rest) := by
    rw [value?]
    cases arrayRest? (value? depth) (text.length + 1) text <;> rfl
  unfold writeStrings
  -- None, one, or several: only several are written on lines of their own.
  split
  · rw [List.cons_append, List.singleton_append, harray, arrayRest?_close]
    rfl
  · rename_i s
    obtain ⟨quote, text, htext, hquote⟩ := exists_writeString_eq_cons s
    have hends : EndsString (']' :: rest) := by simp [EndsString]
    have hvalue := value?_writeString depth s hends
    rw [htext, List.cons_append] at hvalue
    have hsolid : isSolid quote = true := by
      rcases hquote with rfl | rfl <;> decide
    have hopen : quote ≠ ']' := by
      rcases hquote with rfl | rfl <;> decide
    have hlast (fuel : Nat) :
        arrayRest? (value? depth) (fuel + 1) (quote :: (text ++ ']' :: rest)) =
          some ([.string (String.ofList s)], rest) :=
      arrayRest?_last hsolid hopen hvalue
    rw [htext]
    simp only [List.cons_append, List.append_assoc]
    rw [harray, List.nil_append, hlast]
    rfl
  · -- Every item takes at least one character, so the length of the text is fuel enough.
    have hfuel : items.length <
        (('\n' :: (items.flatMap fun s => "    ".toList ++ writeString s ++ [',', '\n']) ++
          ']' :: rest)).length + 1 := by
      have hlines := length_le_flatMap
        (fun s => "    ".toList ++ writeString s ++ [',', '\n']) (by simp) items
      simp only [List.length_append, List.length_cons]
      omega
    have hitems := arrayRest?_items depth _ items rest hfuel
    simp only [List.cons_append, List.append_assoc, List.nil_append] at hitems ⊢
    rw [harray, hitems]
    rfl

end JdkFinder.Toml
