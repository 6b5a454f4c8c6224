import JdkFinder.Toml.Printer
import JdkFinder.Toml.Quoted

/-!
# Written strings are read back

Whatever form a string is written in, `string?` reads it off the front of a text and leaves what
follows, unless another quote follows (`string?_writeString`).
-/

namespace JdkFinder.Toml

/-! ## §1 Escapes -/

/-- The character that the rest of an escape stands for, given where its reader stands. -/
def unescape? : Mode → List Char → Option Char
  | .escape, c :: cs =>
    match afterBackslash? c with
    | some (.inl e) => if cs = [] then some e else none
    | some (.inr mode) => unescape? mode cs
    | none => none
  | .hex missing value, c :: cs =>
    match hexStep? missing value c with
    | some (.inl e) => if cs = [] then some e else none
    | some (.inr mode) => unescape? mode cs
    | none => none
  | _, _ => none

/-- Whether a character is written by an escape of its own in a string on one line. -/
def isWrittenAsEscape (c : Char) : Bool :=
  c == '"' || isEscaped false c

theorem ascii_of_isWrittenAsEscape {c : Char} (h : isWrittenAsEscape c = true) : c.toNat < 128 := by
  simp only [isWrittenAsEscape, isEscaped, needsEscape, isPlain, Bool.or_eq_true, Bool.and_eq_true,
    beq_iff_eq, Bool.not_eq_true', Bool.or_eq_false_iff, Bool.and_eq_false_iff,
    decide_eq_false_iff_not, bne_iff_ne] at h
  rcases h with rfl | ((rfl | rfl) | ⟨rfl, -⟩) | ⟨⟨-, h⟩, -⟩
  · decide
  · decide
  · decide
  · decide
  · rcases h with h | h
    · omega
    · simp at h
      omega

theorem escapeSequence_eq {c : Char} (h : isWrittenAsEscape c = true) :
    ∃ cs, escapeSequence c = '\\' :: cs ∧ unescape? .escape cs = some c := by
  -- There are few such characters, and all of them are ASCII.
  have hall : ∀ n < 128, isWrittenAsEscape (Char.ofNat n) = true →
      (escapeSequence (Char.ofNat n)).head? = some '\\' ∧
        unescape? .escape (escapeSequence (Char.ofNat n)).tail = some (Char.ofNat n) := by
    decide
  have hc := hall c.toNat (ascii_of_isWrittenAsEscape h)
  rw [Char.ofNat_toNat] at hc
  obtain ⟨hhead, htail⟩ := hc h
  cases hsequence : escapeSequence c with
  | nil => simp [hsequence] at hhead
  | cons b cs =>
    rw [hsequence] at hhead htail
    cases hhead
    exact ⟨cs, rfl, htail⟩

theorem basicRest_of_unescape? {mode : Mode} {cs : List Char} {c : Char}
    (h : unescape? mode cs = some c) (rest : List Char) :
    basicRest mode (cs ++ rest) = push c (basicRest .plain rest) := by
  -- The reader takes the same steps; an escape that ends too early or goes on is none.
  fun_induction unescape? mode cs with
  | case1 b e hstep =>
    cases h
    simp only [List.cons_append, List.nil_append, basicRest, hstep]
  | case2 => cases h
  | case3 b cs mode hstep ih => simp only [List.cons_append, basicRest, hstep, ih h]
  | case4 => cases h
  | case5 missing value b e hstep =>
    cases h
    simp only [List.cons_append, List.nil_append, basicRest, hstep]
  | case6 => cases h
  | case7 missing value b cs mode hstep ih => simp only [List.cons_append, basicRest, hstep, ih h]
  | case8 => cases h
  | case9 => cases h

/-- A backslash with white space after it is no escape. -/
theorem afterBackslash?_eq_none {c : Char} (h : isSpace c = true ∨ c = '\n' ∨ c = '\r') :
    afterBackslash? c = none := by
  rcases h with h | rfl | rfl
  · simp only [isSpace, Bool.or_eq_true, beq_iff_eq] at h
    rcases h with rfl | rfl
    all_goals rfl
  · rfl
  · rfl

theorem multiBasicRest_of_unescape? {mode : Mode} {cs : List Char} {c : Char}
    (h : unescape? mode cs = some c) (rest : List Char) :
    multiBasicRest mode (cs ++ rest) = push c (multiBasicRest .plain rest) := by
  -- Whatever is an escape on one line is one over several lines, for it starts with no white space.
  have hstart : ∀ b r, afterBackslash? b = some r → ∀ more,
      (isSpace b || isReturnBefore b more) = false ∧ b ≠ '\n' := by
    intro b r hb more
    have hspace : isSpace b = false := by
      cases hb' : isSpace b with
      | false => rfl
      | true =>
        rw [afterBackslash?_eq_none (.inl hb')] at hb
        cases hb
    have hreturn : b ≠ '\r' := by
      rintro rfl
      cases hb
    have hnewline : b ≠ '\n' := by
      rintro rfl
      cases hb
    simp [hspace, isReturnBefore, hreturn, hnewline]
  fun_induction unescape? mode cs with
  | case1 b e hstep =>
    cases h
    obtain ⟨hspace, hnewline⟩ := hstart b _ hstep rest
    simp only [List.cons_append, List.nil_append, multiBasicRest, hspace, hnewline, hstep,
      Bool.false_eq_true, ↓reduceIte]
  | case2 => cases h
  | case3 b cs mode hstep ih =>
    obtain ⟨hspace, hnewline⟩ := hstart b _ hstep (cs ++ rest)
    simp only [List.cons_append, multiBasicRest, hspace, hnewline, hstep, Bool.false_eq_true,
      ↓reduceIte, ih h]
  | case4 => cases h
  | case5 missing value b e hstep =>
    cases h
    simp only [List.cons_append, List.nil_append, multiBasicRest, hstep]
  | case6 => cases h
  | case7 missing value b cs mode hstep ih =>
    simp only [List.cons_append, multiBasicRest, hstep, ih h]
  | case8 => cases h
  | case9 => cases h

/-! ## §2 Content in double quotes -/

/-- How a character is written: as a quote that needs no escape, by an escape, or as itself. -/
theorem escapeContent_cases (multiline : Bool) (quotes : Nat) (c : Char) (cs : List Char) :
    (multiline = true ∧ quotes < 2 ∧ c = '"' ∧ escapeContent multiline quotes (c :: cs) =
      '"' :: escapeContent multiline (quotes + 1) cs) ∨
    (∃ escape, unescape? .escape escape = some c ∧ escapeContent multiline quotes (c :: cs) =
      '\\' :: escape ++ escapeContent multiline 0 cs) ∨
    (c ≠ '"' ∧ c ≠ '\\' ∧ (isPlain c = true ∨ (multiline = true ∧ c = '\n')) ∧
      escapeContent multiline quotes (c :: cs) = c :: escapeContent multiline 0 cs) := by
  by_cases hquote : c = '"'
  · by_cases hraw : multiline = true ∧ quotes < 2
    · refine .inl ⟨hraw.1, hraw.2, hquote, ?_⟩
      simp [escapeContent, hquote, hraw.1, hraw.2]
    · have hwritten : isWrittenAsEscape c = true := by simp [isWrittenAsEscape, hquote]
      obtain ⟨escape, hsequence, hescape⟩ := escapeSequence_eq hwritten
      refine .inr (.inl ⟨escape, hescape, ?_⟩)
      rw [← hsequence, escapeContent, if_pos hquote, if_neg (by simpa using hraw)]
  · by_cases hescaped : isEscaped multiline c = true
    · have hwritten : isWrittenAsEscape c = true := by
        simp only [isWrittenAsEscape, isEscaped, Bool.or_eq_true, Bool.and_eq_true] at hescaped ⊢
        grind
      obtain ⟨escape, hsequence, hescape⟩ := escapeSequence_eq hwritten
      refine .inr (.inl ⟨escape, hescape, ?_⟩)
      rw [← hsequence, escapeContent, if_neg hquote, if_pos hescaped]
    · refine .inr (.inr ⟨hquote, ?_, ?_, ?_⟩)
      · rintro rfl
        simp [isEscaped] at hescaped
      · cases hplain : isPlain c with
        | true => exact .inl rfl
        | false =>
          -- Of the control characters only a line end is left as it is.
          simp only [isEscaped, needsEscape, hplain, Bool.or_eq_true, Bool.and_eq_true] at hescaped
          grind
      · rw [escapeContent, if_neg hquote, if_neg hescaped]

theorem basicRest_escapeContent (s rest : List Char) :
    basicRest .plain (escapeContent false 0 s ++ '"' :: rest) = some (s, rest) := by
  induction s with
  | nil => simp [escapeContent, basicRest]
  | cons c cs ih =>
    -- Outside a string of several lines a quote is always written as an escape.
    rcases escapeContent_cases false 0 c cs with
      ⟨h, -⟩ | ⟨escape, hescape, hcontent⟩ | ⟨hquote, hbackslash, hplain, hcontent⟩
    · cases h
    · have hread := basicRest_of_unescape? hescape (escapeContent false 0 cs ++ '"' :: rest)
      simp only [hcontent, List.cons_append, List.append_assoc, basicRest, hread, ih, push]
      simp
    · have hc : isPlain c = true := by simpa using hplain
      simp only [hcontent, List.cons_append, basicRest, hquote, hbackslash, hc, ↓reduceIte, ih,
        push]

/-! ## §3 Content in single quotes -/

theorem literalRest_append {s : List Char} (hquote : '\'' ∉ s) (hplain : ∀ c ∈ s, isPlain c = true)
    (rest : List Char) : literalRest (s ++ '\'' :: rest) = some (s, rest) := by
  induction s with
  | nil => simp [literalRest]
  | cons c cs ih =>
    have hc : c ≠ '\'' := by
      rintro rfl
      exact hquote List.mem_cons_self
    have hpc : isPlain c = true := hplain c List.mem_cons_self
    have hcs := ih (fun h => hquote (List.mem_cons_of_mem c h))
      fun d hd => hplain d (List.mem_cons_of_mem c hd)
    simp only [List.cons_append, literalRest, hc, hpc, ↓reduceIte, hcs, push]

/-! ## §4 Content over several lines -/

/-- The quotes at the front of a text. -/
def quotesBefore (quote : Char) (s : List Char) : Nat :=
  (s.takeWhile (· = quote)).length

theorem takeWhile_replicate {quote : Char} {rest : List Char}
    (hrest : ∀ c ∈ rest.head?, c ≠ quote) (n : Nat) :
    (List.replicate n quote ++ rest).takeWhile (· = quote) = List.replicate n quote := by
  rw [List.takeWhile_append_of_pos (by simp)]
  cases rest with
  | nil => simp
  | cons c cs =>
    have hc : c ≠ quote := hrest c rfl
    simp [hc]

/-- Of the quotes at the end up to two belong to the content. -/
theorem closing?_replicate {quote : Char} {n : Nat} {rest : List Char} (hn : n ≤ 2)
    (hrest : ∀ c ∈ rest.head?, c ≠ quote) :
    closing? quote (List.replicate (n + 3) quote ++ rest) =
      some (List.replicate n quote, rest) := by
  have hrun : ((List.replicate (n + 3) quote ++ rest).takeWhile (· = quote)).length = n + 3 := by
    rw [takeWhile_replicate hrest, List.length_replicate]
  have hown : min (n + 3 - 3) 2 = n := by omega
  have hnot : ¬ n + 3 < 3 := by omega
  rw [closing?, hrun]
  simp only [hown, hnot, ↓reduceIte]
  rw [List.drop_left' (List.length_replicate ..)]

/-- Up to two quotes with something else behind them end nothing. -/
theorem closing?_eq_none {quote : Char} {n : Nat} {more : List Char} (hn : n ≤ 2)
    (hne : more ≠ []) (hmore : ∀ c ∈ more.head?, c ≠ quote) (rest : List Char) :
    closing? quote (List.replicate n quote ++ (more ++ rest)) = none := by
  have hhead : ∀ c ∈ (more ++ rest).head?, c ≠ quote := by
    obtain ⟨c, cs, rfl⟩ := List.exists_cons_of_ne_nil hne
    exact hmore
  have hfew : ((List.replicate n quote ++ (more ++ rest)).takeWhile (· = quote)).length < 3 := by
    rw [takeWhile_replicate hhead, List.length_replicate]
    omega
  rw [closing?, if_pos hfew]

/-- The raw quotes at the front of written content: they are all that is left of it, or there are
too few of them to end the string. -/
theorem quotes_escapeContent {quotes : Nat} (hquotes : quotes ≤ 2) (s : List Char) :
    (∃ n, n + quotes ≤ 2 ∧ s = List.replicate n '"' ∧
      escapeContent true quotes s = List.replicate n '"') ∨
    ∃ n rest, n + quotes ≤ 2 ∧ (∀ c ∈ rest.head?, c ≠ '"') ∧ rest ≠ [] ∧
      escapeContent true quotes s = List.replicate n '"' ++ rest := by
  -- On the text; the count of quotes goes on with each of them and starts again after anything
  -- else.
  induction s generalizing quotes with
  | nil => exact .inl ⟨0, by omega, rfl, rfl⟩
  | cons c cs ih =>
    rcases escapeContent_cases true quotes c cs with
      ⟨-, hlt, rfl, hcontent⟩ | ⟨escape, -, hcontent⟩ | ⟨hquote, -, -, hcontent⟩
    · -- A quote that is copied counts for what comes next.
      have hnext : quotes + 1 ≤ 2 := by omega
      rcases ih hnext with
        ⟨n, hn, rfl, hrest⟩ | ⟨n, rest, hn, hhead, hne, hrest⟩
      · exact .inl ⟨n + 1, by omega, rfl, by rw [hcontent, hrest]; rfl⟩
      · exact .inr ⟨n + 1, rest, by omega, hhead, hne, by rw [hcontent, hrest]; rfl⟩
    · -- Anything else ends the quotes in front.
      refine .inr ⟨0, _, by omega, ?_, ?_, hcontent⟩
      · simp
      · simp
    · refine .inr ⟨0, _, by omega, ?_, ?_, hcontent⟩
      · simpa using hquote
      · simp

/-- A plain character and a line feed stand for themselves. -/
theorem own_of_plain {c : Char} (h : isPlain c = true ∨ c = '\n') (s : List Char) :
    isReturnBefore c s = false ∧ (decide (c = '\n') || isPlain c) = true := by
  have hne : c ≠ '\r' := by
    rintro rfl
    revert h
    decide
  constructor
  · simp [isReturnBefore, hne]
  · rcases h with h | rfl
    · simp [h]
    · rfl

theorem multiBasicRest_quote (s : List Char) :
    multiBasicRest .plain ('"' :: s) =
      (closing? '"' ('"' :: s)).or (push '"' (multiBasicRest .plain s)) := by
  rw [multiBasicRest]
  · cases closing? '"' ('"' :: s) <;> simp
  all_goals simp

theorem multiBasicRest_backslash (s : List Char) :
    multiBasicRest .plain ('\\' :: s) = multiBasicRest .escape s := by
  rw [multiBasicRest] <;> simp

theorem multiBasicRest_plain {c : Char} (hquote : c ≠ '"') (hbackslash : c ≠ '\\')
    (hplain : isPlain c = true ∨ c = '\n') (s : List Char) :
    multiBasicRest .plain (c :: s) = push c (multiBasicRest .plain s) := by
  obtain ⟨hreturn, hown⟩ := own_of_plain hplain s
  rw [multiBasicRest]
  · simp only [hquote, hbackslash, hreturn, hown, Bool.false_eq_true, ↓reduceIte]
    simp
  all_goals simp

theorem multiBasicRest_escapeContent {quotes : Nat} (hquotes : quotes ≤ 2) (s : List Char)
    {rest : List Char} (hrest : ∀ c ∈ rest.head?, c ≠ '"') :
    multiBasicRest .plain (escapeContent true quotes s ++ ('"' :: '"' :: '"' :: rest)) =
      some (s, rest) := by
  -- The induction is on the content, whatever number of raw quotes stands just before it.
  induction s generalizing quotes with
  | nil =>
    have hclose : closing? '"' ('"' :: '"' :: '"' :: rest) = some ([], rest) :=
      closing?_replicate (Nat.zero_le 2) hrest
    rw [escapeContent, List.nil_append, multiBasicRest_quote, hclose, Option.some_or]
  | cons c cs ih =>
    rcases escapeContent_cases true quotes c cs with
      ⟨-, hlt, rfl, hcontent⟩ | ⟨escape, hescape, hcontent⟩ |
        ⟨hquote, hbackslash, hplain, hcontent⟩
    · have hnext : quotes + 1 ≤ 2 := by omega
      have hread := ih hnext
      rw [hcontent, List.cons_append, multiBasicRest_quote, hread, push]
      -- The reader stops here if nothing but quotes is left, and otherwise takes this one.
      rcases quotes_escapeContent hnext cs with
        ⟨n, hn, rfl, htext⟩ | ⟨n, more, hn, hhead, hne, htext⟩
      · have hrun : '"' :: (List.replicate n '"' ++ '"' :: '"' :: '"' :: rest) =
            List.replicate (n + 1 + 3) '"' ++ rest := by
          show '"' :: (List.replicate n '"' ++ (List.replicate 3 '"' ++ rest)) = _
          rw [← List.append_assoc, List.replicate_append_replicate]
          rfl
        rw [htext, hrun, closing?_replicate (by omega) hrest, Option.some_or, List.replicate_succ]
      · have hrun : '"' :: (escapeContent true (quotes + 1) cs ++ '"' :: '"' :: '"' :: rest) =
            List.replicate (n + 1) '"' ++ (more ++ '"' :: '"' :: '"' :: rest) := by
          rw [htext, List.append_assoc]
          rfl
        rw [hrun, closing?_eq_none (by omega) hne hhead, Option.none_or]
    · have hread := multiBasicRest_of_unescape? hescape
        (escapeContent true 0 cs ++ ('"' :: '"' :: '"' :: rest))
      rw [hcontent, List.cons_append, List.cons_append, List.append_assoc, multiBasicRest_backslash,
        hread, ih (Nat.zero_le 2), push]
    · have hc : isPlain c = true ∨ c = '\n' := by simpa using hplain
      rw [hcontent, List.cons_append, multiBasicRest_plain hquote hbackslash hc,
        ih (Nat.zero_le 2), push]

/-! ## §5 Runs of quotes -/

/-- No run of a character in the text is longer than `n`. -/
def RunsAtMost (n : Nat) (quote : Char) (s : List Char) : Prop :=
  ∀ before after, s = before ++ after → quotesBefore quote after ≤ n

theorem RunsAtMost.tail {n : Nat} {quote c : Char} {s : List Char}
    (h : RunsAtMost n quote (c :: s)) : RunsAtMost n quote s :=
  fun before after hs => h (c :: before) after (by rw [hs, List.cons_append])

section LongestRun

variable {quote : Char} {here best : Nat}

theorem le_longestRun_go (s : List Char) : best ≤ longestRun.go quote here best s := by
  induction s generalizing here best with
  | nil => exact Nat.le_refl best
  | cons c cs ih =>
    unfold longestRun.go
    split
    · exact Nat.le_trans (Nat.le_max_left _ _) ih
    · exact ih

theorem add_quotesBefore_le_longestRun_go (s : List Char) (hhere : here ≤ best) :
    here + quotesBefore quote s ≤ longestRun.go quote here best s := by
  -- On the text: a quote lengthens the run under way, anything else ends it.
  induction s generalizing here best with
  | nil => simpa [quotesBefore, longestRun.go] using hhere
  | cons c cs ih =>
    unfold longestRun.go
    by_cases hc : c = quote
    · have hcs : here + 1 + quotesBefore quote cs ≤
          longestRun.go quote (here + 1) (max best (here + 1)) cs := ih (Nat.le_max_right _ _)
      simp only [quotesBefore, hc, List.takeWhile_cons, decide_true, ↓reduceIte,
        List.length_cons] at hcs ⊢
      omega
    · have hcs : best ≤ longestRun.go quote 0 best cs := le_longestRun_go cs
      simp only [quotesBefore, hc, List.takeWhile_cons, decide_false, Bool.false_eq_true,
        ↓reduceIte, List.length_nil]
      omega

/-- Wherever the text is cut, the run that begins there has been counted. -/
theorem quotesBefore_le_longestRun_go (before after : List Char) (hhere : here ≤ best) :
    quotesBefore quote after ≤ longestRun.go quote here best (before ++ after) := by
  induction before generalizing here best with
  | nil =>
    have hrun : here + quotesBefore quote after ≤ longestRun.go quote here best after :=
      add_quotesBefore_le_longestRun_go after hhere
    simp only [List.nil_append]
    omega
  | cons c cs ih =>
    rw [List.cons_append]
    unfold longestRun.go
    split
    · exact ih (Nat.le_max_right _ _)
    · exact ih (Nat.zero_le _)

theorem runsAtMost_of_longestRun {n : Nat} {s : List Char} (h : longestRun quote s ≤ n) :
    RunsAtMost n quote s := by
  rintro before after rfl
  exact Nat.le_trans (quotesBefore_le_longestRun_go before after (Nat.le_refl 0)) h

end LongestRun

/-- A text starts with the quotes that are counted, and then goes on with something else. -/
theorem exists_eq_replicate (quote : Char) (s : List Char) :
    ∃ more, s = List.replicate (quotesBefore quote s) quote ++ more ∧
      ∀ c ∈ more.head?, c ≠ quote := by
  induction s with
  | nil => exact ⟨[], rfl, by simp⟩
  | cons c cs ih =>
    -- The quotes in front are counted until another character comes.
    by_cases hc : c = quote
    · subst hc
      obtain ⟨more, hcs, hmore⟩ := ih
      refine ⟨more, ?_, hmore⟩
      have hcount : quotesBefore c (c :: cs) = quotesBefore c cs + 1 := by simp [quotesBefore]
      rw [hcount, List.replicate_succ, List.cons_append, ← hcs]
    · have hcount : quotesBefore quote (c :: cs) = 0 := by simp [quotesBefore, hc]
      refine ⟨c :: cs, ?_, ?_⟩
      · rw [hcount, List.replicate_zero, List.nil_append]
      · simpa using hc

theorem multiLiteralRest_quote (s : List Char) :
    multiLiteralRest ('\'' :: s) =
      (closing? '\'' ('\'' :: s)).or (push '\'' (multiLiteralRest s)) := by
  rw [multiLiteralRest]
  cases closing? '\'' ('\'' :: s) <;> simp

theorem multiLiteralRest_plain {c : Char} (hquote : c ≠ '\'')
    (hplain : isPlain c = true ∨ c = '\n') (s : List Char) :
    multiLiteralRest (c :: s) = push c (multiLiteralRest s) := by
  obtain ⟨hreturn, hown⟩ := own_of_plain hplain s
  simp only [multiLiteralRest, hquote, hreturn, hown, Bool.false_eq_true, ↓reduceIte]

theorem multiLiteralRest_append {s : List Char} (hruns : RunsAtMost 2 '\'' s)
    (hplain : ∀ c ∈ s, isPlain c = true ∨ c = '\n') {rest : List Char}
    (hrest : ∀ c ∈ rest.head?, c ≠ '\'') :
    multiLiteralRest (s ++ '\'' :: '\'' :: '\'' :: rest) = some (s, rest) := by
  induction s with
  | nil =>
    have hclose : closing? '\'' ('\'' :: '\'' :: '\'' :: rest) = some ([], rest) :=
      closing?_replicate (Nat.zero_le 2) hrest
    rw [List.nil_append, multiLiteralRest_quote, hclose, Option.some_or]
  | cons c cs ih =>
    have hread := ih hruns.tail fun d hd => hplain d (List.mem_cons_of_mem c hd)
    by_cases hquote : c = '\''
    · subst hquote
      have hfew : quotesBefore '\'' ('\'' :: cs) ≤ 2 := hruns [] _ rfl
      obtain ⟨more, hs, hmore⟩ := exists_eq_replicate '\'' ('\'' :: cs)
      generalize quotesBefore '\'' ('\'' :: cs) = n at hfew hs
      rw [List.cons_append, multiLiteralRest_quote, hread, push, ← List.cons_append, hs]
      -- The reader stops here if nothing but quotes is left, and otherwise takes this one.
      cases more with
      | nil =>
        have hrun : List.replicate n '\'' ++ [] ++ '\'' :: '\'' :: '\'' :: rest =
            List.replicate (n + 3) '\'' ++ rest := by
          show List.replicate n '\'' ++ [] ++ (List.replicate 3 '\'' ++ rest) = _
          rw [List.append_nil, ← List.append_assoc, List.replicate_append_replicate]
        rw [hrun, closing?_replicate hfew hrest, Option.some_or, List.append_nil]
      | cons d ds =>
        rw [List.append_assoc, closing?_eq_none hfew (by simp) hmore, Option.none_or]
    · rw [List.cons_append, multiLiteralRest_plain hquote (hplain c List.mem_cons_self), hread,
        push]

/-! ## §6 Strings -/

/-- A rest of a text with which a string does not go on. -/
def EndsString (rest : List Char) : Prop :=
  ∀ c ∈ rest.head?, c ≠ '"' ∧ c ≠ '\''

theorem skipFirstLine_eq_self {s : List Char} (h : ∀ c ∈ s.head?, c ≠ '\n' ∧ c ≠ '\r') :
    skipFirstLine s = s := by
  cases s with
  | nil => rfl
  | cons c cs =>
    obtain ⟨hnewline, hreturn⟩ := h c rfl
    have hnone : newline? (c :: cs) = none := by
      unfold newline?
      split <;> simp_all
    rw [skipFirstLine, hnone, Option.getD_none]

/-- The line end at the front is the one that was put there. -/
theorem skipFirstLine_firstLine {s content : List Char}
    (h : '\n' ∉ s → ∀ c ∈ content.head?, c ≠ '\n' ∧ c ≠ '\r') :
    skipFirstLine (firstLine s ++ content) = content := by
  by_cases hs : '\n' ∈ s
  · have hcontains : s.contains '\n' = true := by simpa using hs
    rw [firstLine, if_pos hcontains]
    rfl
  · have hcontains : ¬ s.contains '\n' = true := by simpa using hs
    rw [firstLine, if_neg hcontains, List.nil_append]
    exact skipFirstLine_eq_self (h hs)

theorem head_escapeContent {s : List Char} (hs : '\n' ∉ s) (quotes : Nat) (rest : List Char) :
    ∀ c ∈ (escapeContent true quotes s ++ '"' :: rest).head?, c ≠ '\n' ∧ c ≠ '\r' := by
  cases s with
  | nil =>
    rintro c ⟨⟩
    decide
  | cons d ds =>
    -- A quote, an escape, or a character that stands for itself.
    rcases escapeContent_cases true quotes d ds with
      ⟨-, -, rfl, hcontent⟩ | ⟨escape, -, hcontent⟩ | ⟨-, -, hplain, hcontent⟩
    · rw [hcontent]
      rintro c ⟨⟩
      decide
    · rw [hcontent]
      rintro c ⟨⟩
      decide
    · rw [hcontent]
      rintro c ⟨⟩
      have hnewline : d ≠ '\n' := fun h => hs (h ▸ List.mem_cons_self)
      refine ⟨hnewline, ?_⟩
      rintro rfl
      revert hplain
      decide

theorem string?_of_single {quote : Char} {s : List Char} (h : ∀ t, s ≠ quote :: quote :: t) :
    string? (quote :: s) = lineString? (quote :: s) := by
  unfold string?
  split
  · rename_i t heq
    cases heq
    exact absurd rfl (h t)
  · rename_i t heq
    cases heq
    exact absurd rfl (h t)
  · rfl

/-- Written on one line, no content starts with a quote. -/
theorem exists_escapeContent_eq_cons (c : Char) (cs : List Char) :
    ∃ d ds, escapeContent false 0 (c :: cs) = d :: ds ∧ d ≠ '"' := by
  rcases escapeContent_cases false 0 c cs with
    ⟨h, -⟩ | ⟨escape, -, hcontent⟩ | ⟨hquote, -, -, hcontent⟩
  · cases h
  · exact ⟨_, _, hcontent, by decide⟩
  · exact ⟨_, _, hcontent, hquote⟩

theorem string?_basicString (s : List Char) {rest : List Char} (hrest : EndsString rest) :
    string? (basicString s ++ rest) = some (s, rest) := by
  have htext : basicString s ++ rest = '"' :: (escapeContent false 0 s ++ '"' :: rest) := by
    simp [basicString]
  have hsingle : ∀ t, escapeContent false 0 s ++ '"' :: rest ≠ '"' :: '"' :: t := by
    intro t heq
    cases s with
    | nil =>
      obtain ⟨-, hrest'⟩ := List.cons.inj heq
      rw [hrest'] at hrest
      exact (hrest '"' rfl).1 rfl
    | cons c cs =>
      obtain ⟨d, ds, hcontent, hd⟩ := exists_escapeContent_eq_cons c cs
      rw [hcontent, List.cons_append] at heq
      exact hd (List.cons.inj heq).1
  rw [htext, string?_of_single hsingle]
  exact basicRest_escapeContent s rest

theorem string?_literalString {s : List Char} (hquote : '\'' ∉ s)
    (hplain : ∀ c ∈ s, isPlain c = true) {rest : List Char} (hrest : EndsString rest) :
    string? (literalString s ++ rest) = some (s, rest) := by
  have htext : literalString s ++ rest = '\'' :: (s ++ '\'' :: rest) := by simp [literalString]
  have hsingle : ∀ t, s ++ '\'' :: rest ≠ '\'' :: '\'' :: t := by
    intro t heq
    cases s with
    | nil =>
      obtain ⟨-, hrest'⟩ := List.cons.inj heq
      rw [hrest'] at hrest
      exact (hrest '\'' rfl).2 rfl
    | cons c cs =>
      cases (List.cons.inj heq).1
      exact hquote List.mem_cons_self
  rw [htext, string?_of_single hsingle]
  exact literalRest_append hquote hplain rest

theorem string?_multiBasicString (s : List Char) {rest : List Char} (hrest : EndsString rest) :
    string? (multiBasicString s ++ rest) = some (s, rest) := by
  have htext : multiBasicString s ++ rest = '"' :: '"' :: '"' ::
      (firstLine s ++ (escapeContent true 0 s ++ '"' :: '"' :: '"' :: rest)) := by
    simp [multiBasicString]
  have hskip : skipFirstLine
      (firstLine s ++ (escapeContent true 0 s ++ '"' :: '"' :: '"' :: rest)) =
        escapeContent true 0 s ++ '"' :: '"' :: '"' :: rest :=
    skipFirstLine_firstLine fun hs => head_escapeContent hs 0 _
  rw [htext, string?, hskip]
  exact multiBasicRest_escapeContent (Nat.zero_le 2) s fun c hc => (hrest c hc).1

theorem string?_multiLiteralString {s : List Char} (hruns : RunsAtMost 2 '\'' s)
    (hplain : ∀ c ∈ s, isPlain c = true ∨ c = '\n') {rest : List Char} (hrest : EndsString rest) :
    string? (multiLiteralString s ++ rest) = some (s, rest) := by
  have htext : multiLiteralString s ++ rest = '\'' :: '\'' :: '\'' ::
      (firstLine s ++ (s ++ '\'' :: '\'' :: '\'' :: rest)) := by
    simp [multiLiteralString]
  -- Without a line break in it, the string starts with a plain character or with its closing
  -- quotes.
  have hhead : '\n' ∉ s → ∀ c ∈ (s ++ '\'' :: '\'' :: '\'' :: rest).head?, c ≠ '\n' ∧ c ≠ '\r' := by
    intro hs
    cases s with
    | nil =>
      rintro c ⟨⟩
      decide
    | cons d ds =>
      rintro c ⟨⟩
      have hnewline : d ≠ '\n' := fun h => hs (h ▸ List.mem_cons_self)
      have hd := hplain d List.mem_cons_self
      refine ⟨hnewline, ?_⟩
      rintro rfl
      revert hd
      decide
  rw [htext, string?, skipFirstLine_firstLine hhead]
  exact multiLiteralRest_append hruns hplain fun c hc => (hrest c hc).2

/-- Every form suits the strings that are written in it. -/
theorem string?_writeString (s : List Char) {rest : List Char} (hrest : EndsString rest) :
    string? (writeString s ++ rest) = some (s, rest) := by
  have hplain : ¬ s.any needsEscape = true → ∀ c ∈ s, isPlain c = true ∨ c = '\n' := by
    intro hany c hc
    have hneeds : ¬ needsEscape c = true := fun h => hany (List.any_eq_true.mpr ⟨c, hc, h⟩)
    simp only [needsEscape] at hneeds
    grind
  unfold writeString
  split
  · -- Something needs an escape, which only double quotes allow.
    split
    · exact string?_multiBasicString s hrest
    · exact string?_basicString s hrest
  rename_i hany
  split
  · exact string?_basicString s hrest
  split
  · -- Single quotes on one line: neither a single quote nor a line end may be in the text.
    rename_i hline
    simp only [Bool.and_eq_true, Bool.not_eq_true', List.contains_eq_mem,
      decide_eq_false_iff_not] at hline
    refine string?_literalString hline.1 ?_ hrest
    intro c hc
    refine (hplain hany c hc).resolve_right ?_
    rintro rfl
    exact hline.2 hc
  split
  · exact string?_multiBasicString s hrest
  split
  · -- Three single quotes: no run in the text may be taken for the end.
    rename_i hruns
    exact string?_multiLiteralString (runsAtMost_of_longestRun hruns) (hplain hany) hrest
  split
  · exact string?_multiBasicString s hrest
  · exact string?_basicString s hrest

end JdkFinder.Toml
