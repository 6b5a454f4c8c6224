import JdkFinder.Json.Printer
import JdkFinder.Json.Token
import JdkFinder.Proofs.Text.Decimal
import JdkFinder.Proofs.Text.Pieces
import Mathlib.Data.List.TakeWhile

/-!
# Tokens of written JSON

What the printer writes for a text, a name or a natural number is one token for the reader
(`writes_quote`, `writes_word`, `writes_decimal`).  A word is read as long as it goes on, so what a
text writes is stated for every rest that does not go on with a word.
-/

namespace JdkFinder.JsonToken

/-! ## §1 Steps of the reader -/

section Steps

variable {state next : LexState} {c : Char} {cs : List Char}

theorem lexFrom_cons {tokens : List JsonToken} (h : step? state c = some (next, tokens)) :
    lexFrom state (c :: cs) = (lexFrom next cs).map (tokens ++ ·) := by
  rw [lexFrom, h]

/-- A step that completes no token. -/
theorem lexFrom_silent (h : step? state c = some (next, [])) :
    lexFrom state (c :: cs) = lexFrom next cs := by
  rw [lexFrom_cons h]
  simp

end Steps

/-! ## §2 Strings -/

/-- The units of characters are read as these characters: none of them is half of a pair. -/
theorem ofUnits?_toNat (s : List Char) : ofUnits? (s.map Char.toNat) = some s := by
  induction s with
  | nil => rfl
  | cons c cs ih =>
    have hvalid : c.toNat < 0xD800 ∨ 0xDFFF < c.toNat := by
      rcases c.valid with hlow | hhigh
      · exact .inl hlow
      · exact .inr hhigh.1
    rw [List.map_cons, ofUnits?.eq_def]
    dsimp only
    rw [if_neg (by omega), if_neg (by omega), ih, Char.ofNat_toNat]
    rfl

theorem hexValue?_hexDigit {n : Nat} (h : n < 16) : hexValue? (Json.hexDigit n) = some n := by
  have hall : ∀ k < 16, hexValue? (Json.hexDigit k) = some k := by decide
  exact hall n h

/-- A control character is escaped by its number. -/
theorem lexFrom_hex {n : Nat} (h : n < 0x20) (units : List Nat) (rest : List Char) :
    lexFrom (.string units)
        ('\\' :: 'u' :: '0' :: '0' :: Json.hexDigit (n / 16) :: Json.hexDigit (n % 16) :: rest) =
      lexFrom (.string (n :: units)) rest := by
  have hfirst : step? (.hex units 2 0) (Json.hexDigit (n / 16)) =
      some (.hex units 1 (n / 16), []) := by
    simp [step?, hexValue?_hexDigit (show n / 16 < 16 by omega)]
  have hlast : step? (.hex units 1 (n / 16)) (Json.hexDigit (n % 16)) =
      some (.string (n :: units), []) := by
    simp [step?, hexValue?_hexDigit (show n % 16 < 16 by omega), Nat.div_add_mod']
  calc
    _ = lexFrom (.escape units) _ := lexFrom_silent rfl
    _ = lexFrom (.hex units 4 0) _ := lexFrom_silent rfl
    _ = lexFrom (.hex units 3 0) _ := lexFrom_silent rfl
    _ = lexFrom (.hex units 2 0) _ := lexFrom_silent rfl
    _ = lexFrom (.hex units 1 (n / 16)) _ := lexFrom_silent hfirst
    _ = lexFrom (.string (n :: units)) rest := lexFrom_silent hlast

theorem lexFrom_escapeChar (c : Char) (units : List Nat) (rest : List Char) :
    lexFrom (.string units) (Json.escapeChar c ++ rest) =
      lexFrom (.string (c.toNat :: units)) rest := by
  have hpair {e : Char} {u : Nat}
      (hescape : step? (.escape units) e = some (.string (u :: units), [])) :
      lexFrom (.string units) ('\\' :: e :: rest) = lexFrom (.string (u :: units)) rest :=
    (lexFrom_silent rfl).trans (lexFrom_silent hescape)
  unfold Json.escapeChar
  split
  · exact hpair rfl
  · exact hpair rfl
  · exact hpair rfl
  · exact hpair rfl
  · exact hpair rfl
  rename_i c hquote hbackslash _ _ _
  split
  · rename_i hc
    rw [hc]
    exact hpair rfl
  split
  · rename_i hc
    rw [hc]
    exact hpair rfl
  split
  · rename_i hcontrol
    exact lexFrom_hex hcontrol units rest
  · rename_i hcontrol
    -- Any other character stands for itself.
    refine lexFrom_silent ?_
    rw [step?, if_neg hquote, if_neg hbackslash, if_neg hcontrol]

theorem lexFrom_flatMap_escapeChar (s : List Char) (units : List Nat) (rest : List Char) :
    lexFrom (.string units) (s.flatMap Json.escapeChar ++ rest) =
      lexFrom (.string ((s.map Char.toNat).reverse ++ units)) rest := by
  induction s generalizing units with
  | nil => rfl
  | cons c cs ih =>
    rw [List.flatMap_cons, List.append_assoc, lexFrom_escapeChar, ih]
    simp

theorem lexFrom_quote (s : String) (rest : List Char) :
    lexFrom .between (Json.quote s ++ rest) =
      (lexFrom .between rest).map (.string (some s) :: ·) := by
  have hend : step? (.string (s.toList.map Char.toNat).reverse) '"' =
      some (.between, [.string (some s)]) := by
    rw [step?, if_pos rfl, List.reverse_reverse, ofUnits?_toNat, Option.map_some,
      String.ofList_toList]
  rw [Json.quote, List.cons_append, List.cons_append, lexFrom_silent rfl, List.append_assoc,
    lexFrom_flatMap_escapeChar, List.append_nil]
  exact lexFrom_cons hend

/-! ## §3 Words -/

/-- A text that does not go on with a word. -/
def EndsWord (s : List Char) : Prop :=
  ∀ c ∈ s.head?, isWordChar c = false

theorem EndsWord.append {s rest : List Char} (h : EndsWord s) (hrest : EndsWord rest) :
    EndsWord (s ++ rest) := by
  cases s with
  | nil => exact hrest
  | cons c cs => exact h

theorem isWordChar_of_isSpace {c : Char} (h : isSpace c = true) : isWordChar c = false := by
  simp only [isSpace, Bool.or_eq_true, beq_iff_eq] at h
  rcases h with ((rfl | rfl) | rfl) | rfl
  all_goals decide

/-- A word starts where one of its characters stands. -/
theorem start?_of_isWordChar {c : Char} (h : isWordChar c = true) :
    start? c = some (.word [c], []) := by
  have hspace : isSpace c = false := by
    rw [Bool.eq_false_iff]
    intro hspace
    rw [isWordChar_of_isSpace hspace] at h
    exact Bool.false_ne_true h
  have hquote : c ≠ '"' := by
    rintro rfl
    exact absurd h (by decide)
  rw [start?, hspace, if_neg Bool.false_ne_true, if_neg hquote, if_pos h]

/-- The rest of a word is read up to its end. -/
theorem lexFrom_word {chars word rest : List Char} {token : JsonToken}
    (hword : ∀ c ∈ word, isWordChar c = true) (hrest : EndsWord rest)
    (htoken : ofWord? (chars.reverse ++ word) = some token) :
    lexFrom (.word chars) (word ++ rest) = (lexFrom .between rest).map (token :: ·) := by
  induction word generalizing chars with
  | nil =>
    rw [List.append_nil] at htoken
    cases rest with
    | nil => simp [lexFrom, finish?, htoken]
    | cons c cs =>
      -- The character that ends the word starts whatever comes next.
      have hend : isWordChar c = false := hrest c rfl
      rw [List.nil_append, lexFrom, lexFrom, step?.eq_def, step?.eq_def]
      simp only [hend, htoken]
      cases start? c with
      | none => rfl
      | some started => simp [Function.comp_def]
  | cons c cs ih =>
    have hstep : step? (.word chars) c = some (.word (c :: chars), []) := by
      rw [step?, if_pos (hword c List.mem_cons_self)]
    rw [List.cons_append, lexFrom_silent hstep]
    apply ih
    · intro d hd
      exact hword d (List.mem_cons_of_mem c hd)
    · simpa using htoken

theorem isIntegerPart_decimal (n : Nat) : isIntegerPart (Text.decimal n) = true := by
  unfold isIntegerPart
  split
  · rename_i hnil
    exact absurd hnil (Text.decimal_ne_nil n)
  · rfl
  · rename_i c cs hzero hcons
    rw [bne_iff_ne]
    rintro rfl
    -- Only zero starts with a zero, and it has no other digit.
    cases Text.eq_zero_of_decimal hcons
    have hcs : cs = [] := (List.cons.inj hcons).2.symm
    exact hzero rfl hcs

theorem unsigned?_decimal (negative : Bool) (n : Nat) :
    unsigned? negative (Text.decimal n) = some ⟨negative, n, 0, true⟩ := by
  have htake : (Text.decimal n).takeWhile Char.isDigit = Text.decimal n :=
    List.takeWhile_eq_self_iff.mpr fun _ => Text.ascii_of_mem_decimal
  have hdrop : (Text.decimal n).dropWhile Char.isDigit = [] :=
    List.dropWhile_eq_nil_iff.mpr fun _ => Text.ascii_of_mem_decimal
  have hdigits : Nat.ofDigitChars 10 (Text.decimal n) 0 = n := by
    rw [Text.decimal, Nat.ofDigitChars_ten_toDigits]
  simp [unsigned?, htake, hdrop, hdigits, isIntegerPart_decimal]

/-- The digits of a number are a word that means the number. -/
theorem ofWord?_decimal {n : Nat} (h : n < Nat.pow 2 64) :
    ofWord? (Text.decimal n) = some (.number (some (.ofNat n))) := by
  obtain ⟨c, cs, hcons, hdigit⟩ := Text.exists_decimal_eq_cons n
  -- A number starts with a digit, so it is none of the three words and has no sign.
  have hname {name : List Char} (hletters : ∀ d ∈ name, d.isDigit = false) :
      Text.decimal n ≠ name := by
    rintro rfl
    have hnone := hletters c (hcons ▸ List.mem_cons_self)
    exact Bool.false_ne_true (hnone.symm.trans hdigit)
  have hnumber : number? (Text.decimal n) = some (.ofNat n) := by
    unfold number?
    split
    · rename_i s hminus
      have hsign : c = '-' := (List.cons.inj (hcons.symm.trans hminus)).1
      rw [hsign] at hdigit
      exact absurd hdigit (by decide)
    · exact unsigned?_decimal false n
  have hvalue : (JsonNumber.ofNat n).hasValue = true := by
    have hwhole : (JsonNumber.ofNat n).isWhole = true := decide_eq_true h
    rw [JsonNumber.hasValue, hwhole, Bool.true_or]
  rw [ofWord?, if_neg (hname (Text.forall_of_all (by decide))),
    if_neg (hname (Text.forall_of_all (by decide))),
    if_neg (hname (Text.forall_of_all (by decide))), hnumber, Option.map_some, if_pos hvalue]

/-! ## §4 Written texts -/

/-- A text that is read as the given tokens, whatever follows that does not go on with a word. -/
def Writes (text : List Char) (tokens : List JsonToken) : Prop :=
  ∀ rest, EndsWord rest →
    lexFrom .between (text ++ rest) = (lexFrom .between rest).map (tokens ++ ·)

section Writes

variable {text more : List Char} {tokens others : List JsonToken} {c : Char} {token : JsonToken}

theorem Writes.append (h : Writes text tokens) (hmore : Writes more others)
    (hends : EndsWord more) : Writes (text ++ more) (tokens ++ others) := by
  intro rest hrest
  rw [List.append_assoc, h _ (hends.append hrest), hmore rest hrest]
  simp [Function.comp_def]

/-- A character that is a token by itself. -/
theorem Writes.punctuation (hc : start? c = some (.between, [token])) (h : Writes text tokens) :
    Writes (c :: text) (token :: tokens) := by
  intro rest hrest
  have hstep : step? .between c = some (.between, [token]) := hc
  rw [List.cons_append, lexFrom_cons hstep, h rest hrest]
  simp [Function.comp_def]

theorem Writes.space (hc : isSpace c = true) (h : Writes text tokens) :
    Writes (c :: text) tokens := by
  intro rest hrest
  have hstep : step? .between c = some (.between, []) := by
    rw [step?, start?, if_pos hc]
  rw [List.cons_append, lexFrom_silent hstep, h rest hrest]

theorem Writes.newline (level : Nat) (h : Writes text tokens) :
    Writes (Json.newline level ++ text) tokens := by
  have hindent (k : Nat) : Writes (List.replicate k ' ' ++ text) tokens := by
    induction k with
    | zero => exact h
    | succ k ih => exact ih.space rfl
  exact (hindent (2 * level)).space rfl

theorem writes_nil : Writes [] [] := by
  intro rest _
  simp

/-- White space is no token, and no word goes on with it. -/
theorem writes_space (h : ∀ c ∈ text, isSpace c = true) : Writes text [] ∧ EndsWord text := by
  constructor
  · induction text with
    | nil => exact writes_nil
    | cons c cs ih =>
      exact (ih fun d hd => h d (List.mem_cons_of_mem c hd)).space (h c List.mem_cons_self)
  · exact fun c hc => isWordChar_of_isSpace (h c (List.mem_of_mem_head? hc))

theorem Writes.quote (s : String) (h : Writes text tokens) :
    Writes (Json.quote s ++ text) (.string (some s) :: tokens) := by
  intro rest hrest
  rw [List.append_assoc, lexFrom_quote, h rest hrest]
  simp [Function.comp_def]

theorem writes_word (hne : text ≠ []) (hword : ∀ c ∈ text, isWordChar c = true)
    (htoken : ofWord? text = some token) : Writes text [token] := by
  intro rest hrest
  cases text with
  | nil => exact absurd rfl hne
  | cons c cs =>
    have hstart : step? .between c = some (.word [c], []) :=
      start?_of_isWordChar (hword c List.mem_cons_self)
    rw [List.cons_append, lexFrom_silent hstart]
    apply lexFrom_word _ hrest htoken
    intro d hd
    exact hword d (List.mem_cons_of_mem c hd)

theorem writes_decimal {n : Nat} (h : n < Nat.pow 2 64) :
    Writes (Text.decimal n) [.number (some (.ofNat n))] := by
  apply writes_word (Text.decimal_ne_nil n)
  · intro c hc
    have hdigit : c.isDigit = true := Text.ascii_of_mem_decimal hc
    simp [isWordChar, Char.isAlphanum, hdigit]
  · exact ofWord?_decimal h

end Writes

end JdkFinder.JsonToken
